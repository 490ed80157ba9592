import Failover.Proofs.Uri.Address
import Failover.Proofs.Uri.Scheme

/-!
# URIs — reading a rewritten one again

Addressing a URI to an instance puts scheme, authority and target together without reading the
result.  Each of the three is legal on its own.  Written one after the other they are read again as
the same three, provided that the target starts with a `/`; the target `*` does not, and behind an
authority it becomes part of it.

* `Uri.parse_absolute`: a URI is read from its three parts.
* `Uri.readdress_reread`: what a rewritten URI is read as, and for which it is another one.
-/

namespace Failover

/-- The scheme towards an instance is one on its own, as that of a URI is. -/
theorem IsScheme.schemeFor {i : Instance} {scheme? : Option String}
    (h : ∀ scheme ∈ scheme?, IsScheme scheme) : IsScheme (i.schemeFor scheme?) := by
  have own : IsScheme (scheme?.getD "http") := by
    cases scheme? with
    | none => exact .of_lower (by decide) (by decide) (by decide)
    | some scheme => exact h scheme rfl
  unfold Instance.schemeFor
  dsimp only
  split
  · split
    · exact .of_lower (by decide) (by decide) (by decide)
    · split
      · exact .of_lower (by decide) (by decide) (by decide)
      · exact own
  · exact own

namespace Uri

variable {text : String} {u u' v : Uri} {i : Instance} {scheme : String}

/-- A text that starts with a scheme is neither a target nor a single character. -/
theorem parse_of_scheme (hscheme : IsScheme scheme) {rest : List Char}
    (written : text.toList = scheme.toList ++ "://".toList ++ rest)
    (fits : text.utf8ByteSize ≤ maxLength) : parse text = parseAddress text.toList := by
  have long : 3 ≤ text.toList.length := by
    rw [written]
    simp
    omega
  have slash : text.toList.head? ≠ some '/' := by
    rw [written]
    cases hs : scheme.toList with
    | nil => simp
    | cons c cs =>
        have char := hscheme.chars c (by simp [hs])
        rintro ⟨⟩
        exact absurd char (by decide)
  unfold parse
  rw [if_neg (Nat.not_lt.mpr fits)]
  split
  · rename_i short
    simp [short] at long
  · rename_i short
    simp [short] at long
  · rename_i target
    exact absurd (congrArg List.head? target) slash
  · rename_i short
    simp [short] at long
  · rfl

/-- **A URI is read from its three parts.** -/
theorem parse_absolute {authority rest : List Char} {t : Target} (hscheme : IsScheme scheme)
    (legal : Authority.Legal authority) (ends : ∀ c ∈ rest.head?, endsAuthority c = true)
    (target : Target.parse rest = .ok t) (fits : text.utf8ByteSize ≤ maxLength)
    (written : text.toList = scheme.toList ++ "://".toList ++ (authority ++ rest)) :
    parse text = .ok (.absolute scheme ⟨String.ofList authority⟩ t) := by
  have nonempty : authority.isEmpty = false := by simp [legal.nonempty]
  have some : authority ++ rest ≠ [] := by simp [legal.nonempty]
  rw [parse_of_scheme hscheme written fits, parseAddress, written, hscheme.split_append some]
  dsimp only
  rw [Authority.scan_append legal ends]
  dsimp only
  rw [nonempty, if_neg Bool.false_ne_true, target]

/-- Two URIs report the same parts. -/
structure SameParts (u v : Uri) : Prop where
  scheme : u.scheme? = v.scheme?
  host : u.host? = v.host?
  port : u.port? = v.port?
  path : u.path = v.path
  query : u.query? = v.query?

theorem SameParts.refl (u : Uri) : u.SameParts u := ⟨rfl, rfl, rfl, rfl, rfl⟩

/-- **A rewritten URI is read again as itself, unless it was the target `*`.**  Of that one the star
becomes part of the authority, and the path is lost. -/
theorem readdress_reread (parsed : parse text = .ok u) (h : u.readdress i = .ok u')
    (fits : u'.text.utf8ByteSize ≤ maxLength) :
    ∃ r, parse u'.text = .ok r ∧ (r.SameParts u' ↔ u ≠ asterisk) ∧
      (u ≠ asterisk → r = u') ∧
      (u = asterisk → r = .absolute (i.schemeFor none) ⟨i.authority ++ "*"⟩ .root) := by
  rcases readdress_cases i with ⟨legal, addressed⟩ | ⟨-, cause, refused⟩
  · rw [addressed] at h
    cases h
    have scheme : IsScheme (i.schemeFor u.scheme?) := by
      refine .schemeFor fun scheme hs => ?_
      obtain ⟨rest, hsplit⟩ := scheme_of_parse parsed hs
      exact .of_split hsplit
    rcases wellFormed_of_parse parsed with rfl | wellFormed
    -- The star has no meaning in an authority, so it is read as a part of it.
    · have longer : Authority.Legal (i.authority.toList ++ ['*']) := legal.concat rfl (by decide)
      have written : (Uri.absolute (i.schemeFor none) ⟨i.authority⟩ ⟨"*", none⟩).text.toList =
          (i.schemeFor none).toList ++ "://".toList ++ ((i.authority.toList ++ ['*']) ++ []) := by
        simp [Uri.text, Target.text]
      have ends : ∀ c ∈ ([] : List Char).head?, endsAuthority c = true :=
        fun c hc => absurd hc (Option.not_mem_none c)
      have target : Target.parse [] = .ok .root := rfl
      have reread := parse_absolute scheme longer ends target fits written
      have star : String.ofList (i.authority.toList ++ ['*']) = i.authority ++ "*" := by simp
      rw [star] at reread
      refine ⟨_, reread, iff_of_false (fun same => ?_) (fun other => other rfl),
        fun other => absurd rfl other, fun _ => rfl⟩
      exact absurd (show "/" = "*" from same.path) (by decide)
    · have target : (u.target?.getD .root).WellFormed := by
        cases ht : u.target? with
        | none => exact .root
        | some t => exact wellFormed t ht
      have written : (Uri.absolute (i.schemeFor u.scheme?) ⟨i.authority⟩
          (u.target?.getD .root)).text.toList =
          (i.schemeFor u.scheme?).toList ++ "://".toList ++
            (i.authority.toList ++ (u.target?.getD .root).text.toList) := by
        simp [Uri.text]
      have reread :=
        parse_absolute scheme legal target.ends (Target.parse_text target) fits written
      rw [String.ofList_toList] at reread
      have other : u ≠ asterisk := by
        rintro rfl
        exact absurd (wellFormed _ rfl).rooted (by decide)
      exact ⟨_, reread, iff_of_true (.refl _) other, fun _ => rfl, fun star => absurd star other⟩
  · rw [refused] at h
    cases h

/-- The target `*` goes to `http://10.0.0.7:8443*`, which is read with neither that port nor that
path. -/
theorem readdress_reread_asterisk :
    let i : Instance := ⟨"users", "a", "10.0.0.7", 8443, false, .empty⟩
    let u' : Uri := .absolute "http" ⟨"10.0.0.7:8443"⟩ ⟨"*", none⟩
    let r : Uri := .absolute "http" ⟨"10.0.0.7:8443*"⟩ .root
    parse "*" = .ok asterisk ∧ asterisk.readdress i = .ok u' ∧
      u'.text.utf8ByteSize ≤ maxLength ∧ u'.text = "http://10.0.0.7:8443*" ∧
      parse u'.text = .ok r ∧ ¬ r.SameParts u' := by
  intro i u' r
  have parsed : parse "*" = .ok asterisk := rfl
  have authority : i.authority = "10.0.0.7:8443" := by decide
  have readdressed : asterisk.readdress i = .ok u' := by
    rw [readdress, authority]
    rfl
  have text : u'.text = "http://10.0.0.7:8443*" := by decide
  have fits : u'.text.utf8ByteSize ≤ maxLength := by
    rw [text]
    decide
  obtain ⟨r', reread, same, -, star⟩ := readdress_reread parsed readdressed fits
  obtain rfl : r' = r := by
    rw [star rfl, authority]
    rfl
  exact ⟨parsed, readdressed, fits, text, reread, fun h => same.mp h rfl⟩

end Uri

end Failover
