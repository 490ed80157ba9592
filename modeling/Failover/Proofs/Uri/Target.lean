import Failover.Proofs.Uri.Authority

/-!
# URIs — targets as they are written

A target that has been read starts with a `/` and consists of the characters of paths and queries,
so that its text is read back as the same target.  The one exception is the target `*`, which stands
for no path.

* `Target.parse_text`: a well-formed target is read back from its text.
* `Uri.wellFormed_of_parse`: the targets of URIs that have been read.
-/

namespace Failover

namespace Target

variable {t : Target} {chars : List Char}

/-- A target that can be written behind an authority. -/
structure WellFormed (t : Target) : Prop where
  rooted : t.path.toList.head? = some '/'
  path : ∀ c ∈ t.path.toList, isPathChar c = true
  query : ∀ q ∈ t.query, ∀ c ∈ q.toList, isQueryChar c = true

theorem WellFormed.root : root.WellFormed where
  rooted := rfl
  path c hc := by
    rw [List.mem_singleton.mp hc]
    rfl
  query _ h := nomatch h

theorem WellFormed.path_ne_empty (h : t.WellFormed) : t.path ≠ "" := by
  intro empty
  exact absurd h.rooted (by rw [empty]; nofun)

/-- Where the text of a target begins, an authority ends. -/
theorem WellFormed.ends (h : t.WellFormed) : ∀ c ∈ t.text.toList.head?, endsAuthority c = true := by
  have head : t.text.toList.head? = some '/' := by
    unfold text
    split
    · exact h.rooted
    · simp [h.rooted]
  rw [head]
  rintro _ ⟨⟩
  rfl

/-- A path that is empty is shown as the root. -/
theorem WellFormed.of_path {path : List Char} {query : Option String}
    (start : ∀ c ∈ path.head?, c = '/') (hpath : path.all isPathChar = true)
    (hquery : ∀ q ∈ query, ∀ c ∈ q.toList, isQueryChar c = true) :
    WellFormed ⟨if path.isEmpty then "/" else String.ofList path, query⟩ := by
  cases path with
  | nil => exact ⟨WellFormed.root.rooted, WellFormed.root.path, hquery⟩
  | cons c path =>
      obtain rfl : c = '/' := start c rfl
      refine ⟨?_, ?_, hquery⟩
      · simp
      · simpa using List.all_eq_true.mp hpath

/-- What is read where an authority has ended is well-formed. -/
theorem wellFormed_of_parse (h : parse chars = .ok t)
    (start : ∀ c ∈ chars.head?, endsAuthority c = true) : t.WellFormed := by
  have rooted : ∀ c ∈ (chars.takeWhile (fun c => c != '?' && c != '#')).head?, c = '/' := by
    intro c hc
    rw [List.head?_takeWhile, Option.mem_def, Option.filter_eq_some_iff] at hc
    have ends := start c hc.1
    simp only [endsAuthority, Bool.or_eq_true, beq_iff_eq] at ends
    simp only [Bool.and_eq_true, bne_iff_ne] at hc
    exact (ends.resolve_right hc.2.2).resolve_right hc.2.1
  unfold parse at h
  dsimp only at h
  split at h
  · rename_i hpath
    split at h
    · split at h
      · rename_i hquery
        cases h
        refine .of_path rooted hpath fun q hq => ?_
        cases hq
        rw [String.toList_ofList]
        exact List.all_eq_true.mp hquery
      · cases h
    · cases h
      exact .of_path rooted hpath fun q hq => absurd hq (Option.not_mem_none q)
  · cases h

/-- **A well-formed target is read back from its text.** -/
theorem parse_text (h : t.WellFormed) : parse t.text.toList = .ok t := by
  obtain ⟨path, query⟩ := t
  have row : ∀ c ∈ path.toList, (c != '?' && c != '#') = true := by
    intro c hc
    have char := h.path c hc
    rw [Bool.and_eq_true, bne_iff_ne, bne_iff_ne]
    constructor <;> rintro rfl <;> exact absurd char (by decide)
  have nonempty : path.toList.isEmpty = false := by
    have := h.path_ne_empty
    simpa using this
  have hpath : path.toList.all isPathChar = true := List.all_eq_true.mpr h.path
  unfold parse
  dsimp only
  cases query with
  | none =>
      have stop : ∀ c ∈ ([] : List Char).head?, (c != '?' && c != '#') = false := nofun
      obtain ⟨taken, dropped⟩ := span_append row stop
      rw [List.append_nil] at taken dropped
      rw [text, taken, dropped, nonempty, if_pos hpath]
      simp
  | some q =>
      have hq : ∀ c ∈ q.toList, (c != '#') = true := by
        intro c hc
        have char := h.query q rfl c hc
        rw [bne_iff_ne]
        rintro rfl
        exact absurd char (by decide)
      have stop : ∀ c ∈ ('?' :: q.toList).head?, (c != '?' && c != '#') = false := by
        rintro _ ⟨⟩
        rfl
      have chars : (path ++ "?" ++ q).toList = path.toList ++ '?' :: q.toList := by simp
      obtain ⟨taken, dropped⟩ := span_append row stop
      have hquery : q.toList.all isQueryChar = true := List.all_eq_true.mpr (h.query q rfl)
      rw [text, chars, taken, dropped, nonempty, if_pos hpath]
      simp [List.takeWhile_eq_self_iff.mpr hq, hquery]

end Target

namespace Uri

variable {text : String} {u : Uri}

/-- The URI that is only a `*`. -/
def asterisk : Uri := .target ⟨"*", none⟩

/-- The target of a URI that has been read is well-formed, unless the URI is `*`. -/
theorem wellFormed_of_parse (h : parse text = .ok u) :
    u = asterisk ∨ ∀ t ∈ u.target?, t.WellFormed := by
  unfold parse at h
  split at h
  · cases h
  split at h
  · cases h
  · cases h
    exact .inl rfl
  · split at h
    · cases h
    · rename_i hparse
      cases h
      refine .inr fun t ht => ?_
      cases ht
      refine Target.wellFormed_of_parse hparse fun c hc => ?_
      cases hc
      rfl
  · split at h
    · cases h
    · cases h
      exact .inr nofun
  · refine .inr fun t ht => ?_
    unfold parseAddress at h
    split at h
    · cases h
    · split at h
      · cases h
      · rename_i hscan
        obtain ⟨-, -, -, start⟩ := Authority.scan_split hscan
        split at h
        · split at h <;> cases h
          cases ht
        · split at h
          · cases h
          · split at h
            · cases h
            · rename_i hparse
              cases h
              cases ht
              exact Target.wellFormed_of_parse hparse start

end Uri

end Failover
