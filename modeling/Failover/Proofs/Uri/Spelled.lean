import Failover.Proofs.Uri.Reread

/-!
# URIs — the characters that they are written in

A URI that has been read holds no character that a header may not carry, and neither does the URI
that it becomes under the address of an instance.  So the text of every URI that a bound request can
have is a legal header value.

* `Uri.Spelled`: what a URI is written in, part by part.
* `Uri.Parsed.spelled`, `Uri.Spelled.of_readdress`: the URIs that are read, and what they become.
* `Uri.Spelled.isHeaderValue_text`: their text is a header value.
-/

namespace Failover

/-! ### Characters -/

/-- A character of some part of a URI. -/
def isUriChar (c : Char) : Bool := isPathChar c || isQueryChar c

/-- What holds of ASCII and of everything beyond holds of every character. -/
theorem forall_char {P : Char → Prop} (ascii : ∀ n < 0x80, P (Char.ofNat n))
    (beyond : ∀ c : Char, 0x80 ≤ c.toNat → P c) (c : Char) : P c := by
  rcases Nat.lt_or_ge c.toNat 0x80 with low | high
  · rw [← Char.ofNat_toNat c]
    exact ascii c.toNat low
  · exact beyond c high

theorem isUriChar_of_beyond {c : Char} (high : 0x80 ≤ c.toNat) : isUriChar c = true := by
  simp [isUriChar, isPathChar, high]

theorem isUriChar_of_scheme {c : Char} (h : isSchemeChar c = true) : isUriChar c = true :=
  forall_char (P := fun c => isSchemeChar c = true → isUriChar c = true) (by decide +kernel)
    (fun _ high _ => isUriChar_of_beyond high) c h

theorem isUriChar_of_authority {c : Char} (h : isAuthorityChar c = true ∨ c = '%') :
    isUriChar c = true :=
  forall_char (P := fun c => isAuthorityChar c = true ∨ c = '%' → isUriChar c = true)
    (by decide +kernel) (fun _ high _ => isUriChar_of_beyond high) c h

/-- A header value holds no control characters but tabs. -/
theorem isHeaderValue_iff {s : String} :
    isHeaderValue s = true ↔ ∀ c ∈ s.toList, (0x20 ≤ c.toNat ∧ c ≠ '\x7f') ∨ c = '\t' := by
  simp [isHeaderValue]

/-- A text in the characters of URIs is a header value. -/
theorem isHeaderValue_of_chars {s : String} (h : ∀ c ∈ s.toList, isUriChar c = true) :
    isHeaderValue s = true := by
  have printed : ∀ c : Char, isUriChar c = true → 0x20 ≤ c.toNat ∧ c ≠ '\x7f' := by
    refine forall_char (by decide +kernel) fun c high _ => ⟨Nat.le_trans (by decide) high, ?_⟩
    rintro rfl
    exact absurd high (by decide)
  exact isHeaderValue_iff.mpr fun c hc => .inl (printed c (h c hc))

/-! ### URIs -/

/-- A target that was read consists of characters of URIs. -/
theorem Target.WellFormed.chars {t : Target} (h : t.WellFormed) :
    ∀ c ∈ t.text.toList, isUriChar c = true := by
  have path : ∀ c ∈ t.path.toList, isUriChar c = true := fun c hc => by
    rw [isUriChar, h.path c hc, Bool.true_or]
  unfold text
  cases written : t.query with
  | none => exact path
  | some q =>
      intro c hc
      simp only [String.toList_append, List.mem_append] at hc
      rcases hc with (hc | hc) | hc
      · exact path c hc
      · rw [List.mem_singleton.mp hc]
        decide
      · rw [isUriChar, h.query q written c hc, Bool.or_true]

namespace Uri

variable {u u' : Uri} {i : Instance} {text : String}

/-- Each part of a URI is legal, as far as its characters are concerned. -/
structure Spelled (u : Uri) : Prop where
  scheme : ∀ scheme ∈ u.scheme?, IsScheme scheme
  authority : ∀ a ∈ u.authority?, Authority.Legal a.text.toList
  target : ∀ t ∈ u.target?, ∀ c ∈ t.text.toList, isUriChar c = true

/-- So does every URI that is spelled so. -/
theorem Spelled.chars (h : u.Spelled) : ∀ c ∈ u.text.toList, isUriChar c = true := by
  have authority : ∀ a ∈ u.authority?, ∀ c ∈ a.text.toList, isUriChar c = true :=
    fun a ha c hc => isUriChar_of_authority ((h.authority a ha).chars c hc)
  cases u with
  | target t => exact h.target t rfl
  | authority a => exact authority a rfl
  | absolute scheme a t =>
      have mark : "://".toList.all isUriChar = true := by decide
      intro c hc
      simp only [Uri.text, String.toList_append, List.mem_append] at hc
      rcases hc with ((hc | hc) | hc) | hc
      · exact isUriChar_of_scheme ((h.scheme scheme rfl).chars c hc)
      · exact List.all_eq_true.mp mark c hc
      · exact authority a rfl c hc
      · exact h.target t rfl c hc

/-- Its text is therefore a legal header value. -/
theorem Spelled.isHeaderValue_text (h : u.Spelled) : isHeaderValue u.text = true :=
  isHeaderValue_of_chars h.chars

/-- The authority of a URI that has been read is legal. -/
theorem legal_of_parse (h : parse text = .ok u) :
    ∀ a ∈ u.authority?, Authority.Legal a.text.toList := by
  unfold parse at h
  split at h
  · cases h
  split at h
  · cases h
  · cases h
    nofun
  · split at h <;> cases h
    nofun
  · split at h
    · cases h
    · rename_i hparse
      cases h
      obtain ⟨legal, rfl⟩ := Authority.parse_eq_ok_iff.mp hparse
      rintro _ ⟨⟩
      exact legal
  · unfold parseAddress at h
    split at h
    · cases h
    · split at h
      · cases h
      · rename_i hscan
        obtain ⟨some, split, legal, -⟩ := Authority.scan_split hscan
        split at h
        · -- Nothing follows the authority, so it is all that there was.
          split at h <;> cases h
          rename_i whole
          rw [List.isEmpty_iff.mp whole, List.append_nil] at split
          rintro _ ⟨⟩
          rw [String.toList_ofList]
          exact legal (split ▸ some)
        · split at h
          · cases h
          · rename_i nonempty
            split at h <;> cases h
            rintro _ ⟨⟩
            rw [String.toList_ofList]
            exact legal (by simpa using nonempty)

/-- A URI that was read is spelled so. -/
theorem Parsed.spelled (parsed : u.Parsed) : u.Spelled := by
  obtain ⟨text, h⟩ := parsed
  refine ⟨fun scheme hs => ?_, legal_of_parse h, ?_⟩
  · obtain ⟨rest, split⟩ := scheme_of_parse h hs
    exact .of_split split
  · rcases wellFormed_of_parse h with rfl | wellFormed
    · have star : "*".toList.all isUriChar = true := by decide
      rintro _ ⟨⟩
      exact List.all_eq_true.mp star
    · exact fun t ht => (wellFormed t ht).chars

/-- Under the address of an instance, only what the instance gives is new. -/
theorem Spelled.of_readdress (h : u.Spelled) (readdressed : u.readdress i = .ok u') :
    u'.Spelled := by
  rcases readdress_cases i with ⟨legal, addressed⟩ | ⟨-, cause, refused⟩
  · rw [addressed] at readdressed
    cases readdressed
    refine ⟨?_, ?_, ?_⟩
    · rintro _ ⟨⟩
      exact .schemeFor h.scheme
    · rintro _ ⟨⟩
      exact legal
    · rintro _ ⟨⟩
      cases target : u.target? with
      | none => exact Target.WellFormed.root.chars
      | some t => exact h.target t target
  · rw [refused] at readdressed
    cases readdressed

end Uri

end Failover
