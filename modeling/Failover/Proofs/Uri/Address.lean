import Failover.Pipeline
import Failover.Proofs.Uri.Target

/-!
# URIs — under the address of an instance

A URI that is addressed to an instance keeps its path and its query, and nothing of the address that
it had.  Whether this succeeds depends on the instance alone: its host and port form a legal
authority, or every URI meets the same failure.  So a request cannot tell, once it is bound, under
which address it was issued.

* `Instance.port?_authority`: the port of an instance can be read off its address.
* `Uri.readdress_cases`: the two ways in which addressing goes.
* `Uri.readdress_congr`: of the URI only the scheme and the target matter.
* `Pipeline.bind_readdressed`: what a bound request keeps, and what it forgets.
-/

namespace Failover

/-! ### The address of an instance -/

namespace Instance

variable {i : Instance}

theorem authority_toList :
    i.authority.toList = (addressHost i.host).toList ++ ':' :: Nat.toDigits 10 i.port.toNat := by
  simp [authority]

/-- Whatever the host is, the port can be read off the address. -/
theorem port?_authority : (⟨i.authority⟩ : Authority).port? = some i.port := by
  have colon : ':' ∉ Nat.toDigits 10 i.port.toNat := fun h =>
    absurd (IsDigits.toDigits.digit ':' h) (by decide)
  have last := Authority.port?_of_toList (a := ⟨i.authority⟩) authority_toList colon
  rw [last, Authority.readPort?_toDigits]

end Instance

/-! ### Addressing a URI -/

namespace Uri

variable {u v : Uri} {i : Instance}

/-- A URI that some text is read as. -/
def Parsed (u : Uri) : Prop := ∃ text, parse text = .ok u

theorem Parsed.path_ne_empty (parsed : u.Parsed) : ∀ t ∈ u.target?, t.path ≠ "" := by
  obtain ⟨text, h⟩ := parsed
  rcases wellFormed_of_parse h with rfl | wellFormed
  · rintro _ ⟨⟩
    decide
  · exact fun t ht => (wellFormed t ht).path_ne_empty

/-- The target of a URI that has been read is known from its path and its query. -/
theorem Parsed.target_eq (hu : u.Parsed) (hv : v.Parsed) (path : u.path = v.path)
    (query : u.query? = v.query?) : u.target? = v.target? := by
  have hu := hu.path_ne_empty
  have hv := hv.path_ne_empty
  unfold Uri.path at path
  unfold query? at query
  cases ht : u.target? with
  | none =>
      cases hs : v.target? with
      | none => rfl
      | some s =>
          rw [ht, hs] at path
          exact absurd path.symm (hv s hs)
  | some t =>
      cases hs : v.target? with
      | none =>
          rw [ht, hs] at path
          exact absurd path (hu t ht)
      | some s =>
          rw [ht, hs] at path query
          obtain ⟨p, q⟩ := t
          obtain ⟨p', q'⟩ := s
          cases show p = p' from path
          cases show q = q' from query
          rfl

/-- A URI stands under the address of an instance in place of another. -/
structure AddressedTo (i : Instance) (u u' : Uri) : Prop where
  authority : u'.authority? = some ⟨i.authority⟩
  port : u'.port? = some i.port
  /-- A URI without a path is one of the root. -/
  path : u'.path = if u.path = "" then "/" else u.path
  query : u'.query? = u.query?

/-- The failure that an instance meets with a URI does not depend on the URI. -/
theorem readdress_cases (i : Instance) :
    Authority.Legal i.authority.toList ∧
        (∀ u : Uri, u.readdress i =
          .ok (.absolute (i.schemeFor u.scheme?) ⟨i.authority⟩ (u.target?.getD .root))) ∨
      ¬ Authority.Legal i.authority.toList ∧
        ∃ cause, ∀ u : Uri, u.readdress i = .error (i.addressFailure cause) := by
  unfold readdress
  cases h : Authority.parse i.authority with
  | ok a =>
      obtain ⟨legal, rfl⟩ := Authority.parse_eq_ok_iff.mp h
      exact .inl ⟨legal, fun _ => rfl⟩
  | error cause =>
      refine .inr ⟨fun legal => ?_, cause, fun _ => rfl⟩
      rw [Authority.parse_eq_ok_iff.mpr ⟨legal, rfl⟩] at h
      cases h

theorem addressedTo_absolute (parsed : u.Parsed) {scheme : String} :
    u.AddressedTo i (.absolute scheme ⟨i.authority⟩ (u.target?.getD .root)) where
  authority := rfl
  port := by
    simp only [port?, authority?, Option.bind_some]
    exact i.port?_authority
  path := by
    have hpath := parsed.path_ne_empty
    unfold Uri.path
    cases ht : u.target? with
    | none => rfl
    | some t => exact (if_neg (hpath t ht)).symm
  query := by
    unfold query?
    cases u.target? <;> rfl

/-- Of the URI only the scheme and the target matter. -/
theorem readdress_congr (scheme : u.scheme? = v.scheme?) (target : u.target? = v.target?) :
    u.readdress i = v.readdress i := by
  unfold readdress
  rw [scheme, target]

end Uri

/-! ### Binding -/

/-- Two requests that differ at most in the authority of their URIs, and in the ordinal that binding
replaces. -/
structure Request.AlikeElsewhere (r r' : Request) : Prop where
  method : r.method = r'.method
  headers : r.headers = r'.headers
  body : r.body = r'.body
  scheme : r.uri.scheme? = r'.uri.scheme?
  path : r.uri.path = r'.uri.path
  query : r.uri.query? = r'.uri.query?

namespace Pipeline

variable {m : Type → Type} [Monad m] {p : Pipeline} {raw : Request} {i : Instance} {n : Nat}

/-- Binding with transformers that may do more than edit the request: note that they ran, fail, or
never return. -/
def bindWith (transformers : List (Instance → Request → m Request)) (raw : Request) (i : Instance)
    (n : Nat) : m (Except Failure Request) :=
  match raw.uri.readdress i with
  | .error e => pure (.error e)
  | .ok uri => Except.ok <$> transformers.foldlM (fun r t => t i r) { raw with uri, attempt := n }

/-- With transformers that only edit, this is the binding of the pipeline. -/
theorem bindWith_pure [LawfulMonad m] :
    bindWith (p.transformers.map fun t i r => (pure (t i r) : m Request)) raw i n =
      pure (p.bind raw i n) := by
  unfold bindWith bind
  cases raw.uri.readdress i with
  | error e => rfl
  | ok uri => simp [List.foldlM_map, run]

/-- Requests that differ only in the authority of their URIs are bound to the same. -/
theorem bind_congr {raw' : Request} (parsed : raw.uri.Parsed) (parsed' : raw'.uri.Parsed)
    (alike : raw.AlikeElsewhere raw') : p.bind raw i n = p.bind raw' i n := by
  have target := parsed.target_eq parsed' alike.path alike.query
  unfold bind
  rw [Uri.readdress_congr alike.scheme target]
  cases raw'.uri.readdress i with
  | error e => rfl
  | ok uri =>
      obtain ⟨method, _, headers, body, _⟩ := raw
      obtain ⟨method', _, headers', body', _⟩ := raw'
      cases show method = method' from alike.method
      cases show headers = headers' from alike.headers
      cases show body = body' from alike.body
      rfl

/-- **A bound request keeps the path and forgets under which address it was issued.**  Addressing
fails exactly for an instance without a legal authority, with one failure for all URIs, and then no
transformer runs.  Otherwise the URI stands under the instance's address, and requests that differ
only in the authority of their URIs are bound to the same. -/
theorem bind_readdressed (i : Instance) :
    ∃ e : Failure, e.kind = .invalidAddress ∧
      (∀ u : Uri, u.readdress i = .error e ↔ ¬ Authority.Legal i.authority.toList) ∧
      (∀ (u : Uri) (e' : Failure), u.readdress i = .error e' → e' = e) ∧
      (∀ u u' : Uri, u.Parsed → u.readdress i = .ok u' → u.AddressedTo i u') ∧
      (∀ (p : Pipeline) (n : Nat) (raw raw' : Request), raw.uri.Parsed → raw'.uri.Parsed →
        raw.AlikeElsewhere raw' → p.bind raw i n = p.bind raw' i n) ∧
      (¬ Authority.Legal i.authority.toList → ∀ (raw : Request) (n : Nat),
        (∀ p : Pipeline, p.bind raw i n = .error e) ∧
          ∀ {m : Type → Type} [Monad m] (transformers : List (Instance → Request → m Request)),
            bindWith transformers raw i n = pure (.error e)) := by
  rcases Uri.readdress_cases i with ⟨legal, addressed⟩ | ⟨illegal, cause, refused⟩
  · refine ⟨i.addressFailure .empty, rfl, fun u => ?_, fun u e' h => ?_, fun u u' parsed h => ?_,
      fun _ _ _ _ => bind_congr, fun illegal => absurd legal illegal⟩
    · rw [addressed]
      exact iff_of_false nofun (not_not_intro legal)
    · rw [addressed] at h
      cases h
    · rw [addressed] at h
      cases h
      exact Uri.addressedTo_absolute parsed
  · refine ⟨i.addressFailure cause, rfl, fun u => iff_of_true (refused u) illegal, fun u e' h => ?_,
      fun u u' parsed h => ?_, fun _ _ _ _ => bind_congr, fun _ raw n => ⟨fun p => ?_, fun _ => ?_⟩⟩
    · rw [refused] at h
      cases h
      rfl
    · rw [refused] at h
      cases h
    · unfold bind
      rw [refused]
    · unfold bindWith
      rw [refused]

/-- Behind an address in brackets it does not matter which service a request was for; behind a host
with a blank in it not even a transformer that fails is reached. -/
theorem bind_readdressed_hosts :
    let bracketed : Instance := ⟨"users", "a", "::1", 8443, true, .empty⟩
    let blank : Instance := ⟨"users", "b", "bad host", 80, false, .empty⟩
    let raw : Request := .ofUri .get (.absolute "http" ⟨"users"⟩ ⟨"/a", some "b"⟩)
    let raw' : Request := .ofUri .get (.absolute "http" ⟨"me@orders:80"⟩ ⟨"/a", some "b"⟩)
    let u' : Uri := .absolute "https" ⟨"[::1]:8443"⟩ ⟨"/a", some "b"⟩
    raw.uri.Parsed ∧ raw'.uri.Parsed ∧ raw.AlikeElsewhere raw' ∧
      raw.uri.readdress bracketed = .ok u' ∧ raw.uri.AddressedTo bracketed u' ∧
      (∀ (p : Pipeline) (n : Nat), p.bind raw bracketed n = p.bind raw' bracketed n) ∧
      ¬ Authority.Legal blank.authority.toList ∧
      ∃ e, bindWith [fun _ _ => none] raw blank 1 = some (.error e) := by
  intro bracketed blank raw raw' u'
  have parsed : raw.uri.Parsed := ⟨"http://users/a?b", rfl⟩
  have parsed' : raw'.uri.Parsed := ⟨"http://me@orders:80/a?b", rfl⟩
  have alike : raw.AlikeElsewhere raw' := ⟨rfl, rfl, rfl, rfl, rfl, rfl⟩
  have readdressed : raw.uri.readdress bracketed = .ok u' := by
    have authority : bracketed.authority = "[::1]:8443" := by decide
    rw [Uri.readdress, authority]
    rfl
  have illegal : ¬ Authority.Legal blank.authority.toList := fun legal =>
    absurd (legal.chars ' ' (by decide)) (by decide)
  obtain ⟨-, -, -, -, addressed, same, -⟩ := bind_readdressed bracketed
  obtain ⟨e, -, -, -, -, -, unedited⟩ := bind_readdressed blank
  exact ⟨parsed, parsed', alike, readdressed, addressed _ _ parsed readdressed,
    fun p n => same p n raw raw' parsed parsed' alike, illegal,
    e, (unedited illegal raw 1).2 [fun _ _ => none]⟩

end Pipeline

end Failover
