import Failover.Pipeline
import Failover.Proofs.Lists
import Mathlib.Data.List.TakeWhile

/-!
# URIs — the scheme towards a secure instance

Schemes compare without regard to letter case.  Reading a URI writes `http` and `https` in lower
case and keeps every other scheme as it stands, and an instance that speaks only TLS replaces the
schemes `http` and `ws` as they are written in lower case.  So `http` is replaced in every spelling,
and `ws` in one of four: written with a capital letter it is kept, and the request goes out in clear
text.

* `IsScheme.of_split`, `IsScheme.split_append`: what is split off in front of a text is a scheme,
  and every scheme is split off again.
* `Uri.scheme_of_parse`: the scheme of a URI is what was split off.
* `Uri.readdress_secured`: what becomes of every scheme, and which URIs stay in clear text.
-/

namespace Failover

/-! ### Letter case -/

theorem toLower_eq_iff {s t : String} : s.toLower = t ↔ s.toList.map Char.toLower = t.toList := by
  rw [← String.toList_inj]
  change (s.map Char.toLower).toList = _ ↔ _
  rw [String.toList_map]

/-- A text starts with another in any letter case if it does so in lower case. -/
theorem startsWithIgnoringCase_iff {lower cs : List Char} :
    startsWithIgnoringCase lower cs = true ↔ lower <+: cs.map Char.toLower := by
  induction lower generalizing cs with
  | nil => simp [startsWithIgnoringCase]
  | cons l lower ih =>
      cases cs with
      | nil => simp [startsWithIgnoringCase]
      | cons c cs =>
          rw [startsWithIgnoringCase, List.map_cons, List.cons_prefix_cons, Bool.and_eq_true, ih,
            beq_iff_eq, eq_comm]

theorem toLower_ne_colon {c : Char} (h : c ≠ ':') : c.toLower ≠ ':' := by
  unfold Char.toLower
  split
  · rename_i capital
    intro colon
    have low := capital.1
    have high := capital.2
    have lower := congrArg UInt32.toNat (congrArg Char.val colon)
    simp only [ge_iff_le, UInt32.le_iff_toNat_le] at low high
    simp at low high lower
    omega
  · exact h

/-! ### Reading a scheme -/

/-- A scheme as it is written when it has been read. -/
structure IsScheme (scheme : String) : Prop where
  chars : ∀ c ∈ scheme.toList, isSchemeChar c = true
  short : scheme.toList.length ≤ maxSchemeLength
  /-- The two schemes of HTTP are written in lower case. -/
  http : scheme.toLower = "http" → scheme = "http"
  https : scheme.toLower = "https" → scheme = "https"

namespace IsScheme

variable {scheme : String} {rest : List Char}

/-- One that is written in lower case stays as it is. -/
theorem of_lower (chars : scheme.toList.all isSchemeChar = true)
    (short : scheme.toList.length ≤ maxSchemeLength)
    (lower : scheme.toList.map Char.toLower = scheme.toList) : IsScheme scheme where
  chars := List.all_eq_true.mp chars
  short := short
  http h := by rwa [toLower_eq_iff, lower, String.toList_inj] at h
  https h := by rwa [toLower_eq_iff, lower, String.toList_inj] at h

/-- A scheme in front of its `://` is compared as a whole. -/
theorem starts_iff (name : String) (colon : ':' ∉ name.toList)
    (chars : ∀ c ∈ scheme.toList, isSchemeChar c = true) :
    startsWithIgnoringCase (name.toList ++ "://".toList)
        (scheme.toList ++ "://".toList ++ rest) = true ↔
      scheme.toLower = name := by
  have lower : ':' ∉ scheme.toList.map Char.toLower := by
    rw [List.mem_map]
    rintro ⟨c, hc, hlower⟩
    refine toLower_ne_colon ?_ hlower
    rintro rfl
    exact absurd (chars _ hc) (by decide)
  have mark : "://".toList.map Char.toLower = "://".toList := rfl
  have before {cs after : List Char} (h : ':' ∉ cs) :
      (cs ++ ("://".toList ++ after)).takeWhile (· != ':') = cs := by
    refine (span_append (fun c hc => bne_iff_ne.mpr ?_) ?_).1
    · rintro rfl
      exact h hc
    · rintro _ ⟨⟩
      rfl
  rw [startsWithIgnoringCase_iff, toLower_eq_iff, List.append_assoc, List.map_append,
    List.map_append, mark]
  constructor
  · rintro ⟨after, h⟩
    rw [List.append_assoc] at h
    rw [← before lower, ← h, before colon]
  · intro h
    exact ⟨rest.map Char.toLower, by rw [h, List.append_assoc]⟩

/-- What is split off in front of a text is a scheme. -/
theorem of_split {chars : List Char} (h : splitScheme chars = .ok (some scheme, rest)) :
    IsScheme scheme := by
  unfold splitScheme at h
  split at h
  · cases h
    exact .of_lower (by decide) (by decide) (by decide)
  rename_i notHttp
  split at h
  · cases h
    exact .of_lower (by decide) (by decide) (by decide)
  rename_i notHttps
  dsimp only at h
  split at h
  · rename_i after hafter
    split at h
    · cases h
    split at h
    · cases h
    rename_i short
    cases h
    have hchars : ∀ c ∈ (String.ofList (chars.takeWhile isSchemeChar)).toList,
        isSchemeChar c = true := by
      rw [String.toList_ofList]
      exact fun c hc => List.mem_takeWhile_imp hc
    have split : chars = (String.ofList (chars.takeWhile isSchemeChar)).toList ++
        "://".toList ++ rest := by
      rw [String.toList_ofList, List.append_assoc]
      exact (hafter ▸ List.takeWhile_append_dropWhile).symm
    refine ⟨hchars, ?_, fun lower => ?_, fun lower => ?_⟩
    · rw [String.toList_ofList]
      exact Nat.not_lt.mp short
    · refine absurd ?_ notHttp
      rw [split]
      exact (starts_iff "http" (by decide) hchars).mpr lower
    · refine absurd ?_ notHttps
      rw [split]
      exact (starts_iff "https" (by decide) hchars).mpr lower
  · cases h

/-- **A scheme is split off again from what it is written in front of.** -/
theorem split_append (h : IsScheme scheme) (hrest : rest ≠ []) :
    splitScheme (scheme.toList ++ "://".toList ++ rest) = .ok (some scheme, rest) := by
  by_cases http : scheme.toLower = "http"
  · rw [h.http http]
    rfl
  by_cases https : scheme.toLower = "https"
  · rw [h.https https]
    rfl
  have notHttp : ¬ startsWithIgnoringCase "http://".toList
      (scheme.toList ++ "://".toList ++ rest) = true :=
    mt (starts_iff "http" (by decide) h.chars).mp http
  have notHttps : ¬ startsWithIgnoringCase "https://".toList
      (scheme.toList ++ "://".toList ++ rest) = true :=
    mt (starts_iff "https" (by decide) h.chars).mp https
  have stop : ∀ c ∈ ("://".toList ++ rest).head?, isSchemeChar c = false := by
    rintro _ ⟨⟩
    decide
  obtain ⟨taken, dropped⟩ := span_append h.chars stop
  unfold splitScheme
  rw [if_neg notHttp, if_neg notHttps]
  dsimp only
  rw [List.append_assoc, taken, dropped]
  simp [hrest, h.short]

end IsScheme

/-- A scheme that compares equal to `http` is written in lower case. -/
theorem splitScheme_http {chars rest : List Char} {scheme : String}
    (h : splitScheme chars = .ok (some scheme, rest)) (hs : scheme.toLower = "http") :
    scheme = "http" :=
  (IsScheme.of_split h).http hs

namespace Uri

variable {text : String} {u u' : Uri} {i : Instance} {scheme : String}

/-- The scheme of an address is what is split off in front of it. -/
theorem scheme_of_parseAddress {chars : List Char} (h : parseAddress chars = .ok u)
    (hs : u.scheme? = some scheme) : ∃ rest, splitScheme chars = .ok (some scheme, rest) := by
  unfold parseAddress at h
  split at h
  · cases h
  · rename_i found rest hsplit
    split at h
    · cases h
    · split at h
      · -- Without a scheme there is an authority alone.
        split at h <;> cases h
        cases hs
      · split at h
        · cases h
        · split at h <;> cases h
          cases hs
          exact ⟨rest, hsplit⟩

/-- The scheme of a URI is what was split off in front of it. -/
theorem scheme_of_parse (h : parse text = .ok u) (hs : u.scheme? = some scheme) :
    ∃ rest, splitScheme text.toList = .ok (some scheme, rest) := by
  unfold parse at h
  split at h
  · cases h
  · split at h
    · cases h
    · cases h
      cases hs
    · split at h <;> cases h
      cases hs
    · split at h <;> cases h
      cases hs
    · exact scheme_of_parseAddress h hs

/-! ### Towards a secure instance -/

/-- Whether a scheme asks for clear text, in any letter case. -/
def IsClear (scheme : String) : Prop := scheme.toLower = "http" ∨ scheme.toLower = "ws"

/-- The scheme `ws` with a capital letter. -/
def IsCapitalWs (scheme : String) : Prop := scheme.toLower = "ws" ∧ scheme ≠ "ws"

/-- What a scheme becomes towards a secure instance. -/
inductive Secured : Option String → String → Prop where
  | absent : Secured none "https"
  /-- The scheme `http` in any letter case. -/
  | http {scheme : String} (lower : scheme.toLower = "http") : Secured (some scheme) "https"
  | ws : Secured (some "ws") "wss"
  /-- Every other scheme is kept, and so is `ws` with a capital letter. -/
  | other {scheme : String} (notHttp : scheme.toLower ≠ "http") (notWs : scheme ≠ "ws") :
      Secured (some scheme) scheme

/-- Towards an instance that speaks only TLS the schemes of clear text are secured, as far as they
are written in lower case. -/
theorem secured_schemeFor {scheme? : Option String} (secure : i.secure = true)
    (written : ∀ scheme ∈ scheme?, scheme.toLower = "http" → scheme = "http") :
    Secured scheme? (i.schemeFor scheme?) := by
  unfold Instance.schemeFor
  rw [if_pos secure]
  cases scheme? with
  | none => exact .absent
  | some scheme =>
      dsimp only [Option.getD_some]
      split
      · rename_i http
        exact .http (toLower_eq_iff.mpr (by rw [http]; decide))
      · rename_i notHttp
        have notHttp : scheme.toLower ≠ "http" := fun lower => notHttp (written scheme rfl lower)
        split
        · rename_i ws
          exact ws ▸ .ws
        · rename_i notWs
          exact .other notHttp notWs

/-- What a scheme becomes asks for clear text only if it is kept. -/
theorem Secured.isClear_iff {scheme? : Option String} {scheme' : String}
    (h : Secured scheme? scheme') :
    IsClear scheme' ↔ ∃ scheme, scheme? = some scheme ∧ IsCapitalWs scheme := by
  have https : ¬ IsClear "https" := by
    rintro (h | h) <;> exact absurd (toLower_eq_iff.mp h) (by decide)
  have wss : ¬ IsClear "wss" := by
    rintro (h | h) <;> exact absurd (toLower_eq_iff.mp h) (by decide)
  cases h with
  | absent => exact iff_of_false https (by simp)
  | http lower =>
      refine iff_of_false https ?_
      rintro ⟨scheme, hs, lower', -⟩
      cases hs
      exact absurd (lower.symm.trans lower') (by decide)
  | ws =>
      refine iff_of_false wss ?_
      rintro ⟨scheme, hs, -, capital⟩
      cases hs
      exact capital rfl
  | other notHttp notWs =>
      constructor
      · intro clear
        exact ⟨scheme', rfl, clear.resolve_left notHttp, notWs⟩
      · rintro ⟨scheme, hs, lower, -⟩
        cases hs
        exact .inr lower

/-- A readdressed URI has the scheme towards its instance. -/
theorem scheme_of_readdress (h : u.readdress i = .ok u') :
    u'.scheme? = some (i.schemeFor u.scheme?) := by
  unfold readdress at h
  split at h <;> cases h
  rfl

/-- **A secure instance is addressed in clear text only by a `ws` that is written with a capital
letter.**  The scheme `http`, in any letter case or left out, becomes `https`, and `ws` becomes
`wss`. -/
theorem readdress_secured (secure : i.secure = true) (parsed : parse text = .ok u)
    (h : u.readdress i = .ok u') :
    ∃ scheme', u'.scheme? = some scheme' ∧ Secured u.scheme? scheme' ∧
      (IsClear scheme' ↔ ∃ scheme, u.scheme? = some scheme ∧ IsCapitalWs scheme) := by
  have written : ∀ scheme ∈ u.scheme?, scheme.toLower = "http" → scheme = "http" := by
    intro scheme hs lower
    obtain ⟨rest, hsplit⟩ := scheme_of_parse parsed hs
    exact splitScheme_http hsplit lower
  have secured := secured_schemeFor secure written
  exact ⟨_, scheme_of_readdress h, secured, secured.isClear_iff⟩

/-- A request to `WS://users/socket` goes to a secure instance in clear text. -/
theorem readdress_secured_capital_ws :
    let i : Instance := ⟨"users", "a", "10.0.0.7", 8443, true, .empty⟩
    let u : Uri := .absolute "WS" ⟨"users"⟩ ⟨"/socket", none⟩
    let u' : Uri := .absolute "WS" ⟨"10.0.0.7:8443"⟩ ⟨"/socket", none⟩
    i.secure = true ∧ parse "WS://users/socket" = .ok u ∧ u.readdress i = .ok u' ∧
      Secured u.scheme? "WS" ∧ IsClear "WS" := by
  intro i u u'
  have parsed : parse "WS://users/socket" = .ok u := rfl
  have readdressed : u.readdress i = .ok u' := by
    have authority : i.authority = "10.0.0.7:8443" := by decide
    rw [readdress, authority]
    rfl
  obtain ⟨scheme', hs, secured, clear⟩ := readdress_secured rfl parsed readdressed
  obtain rfl : "WS" = scheme' := Option.some.inj hs
  have capital : IsCapitalWs "WS" := ⟨toLower_eq_iff.mpr (by decide), by decide⟩
  exact ⟨rfl, parsed, readdressed, secured, clear.mpr ⟨"WS", rfl, capital⟩⟩

end Uri

end Failover
