import Failover.Proofs.Uri.Spelled
import Mathlib.Data.List.Induction

/-!
# Pipelines — what edits add up to

Edits run in list order and only add: a header goes behind the values of its name, a suffix behind
the body, and a URI in the place of the last.  So what a pipeline has done at its end is known from
its list, except that an edit which echoes the URI depends on the edits before it.

* `Edit.toTransformer_eq`: what one edit does.
* `Edit.valuesFor`, `Edit.uriAfter`: what a list of them does to a header and to the URI.
* `Request.Edited.concat`, `Pipeline.run_edited`: one more edit, and all of them.
* `Pipeline.bind_edited`: the request that an attempt sends.
-/

namespace Failover

/-! ### One edit -/

/-- Adds a header that is offered, if its value is legal. -/
def Headers.offer (h : Headers) : Option (HeaderName × String) → Headers
  | none => h
  | some (name, value) => if isHeaderValue value then h.append name value else h

namespace Edit

variable {i : Instance} {n : Nat} {u : Uri} {e : Edit} {edits : List Edit} {r : Request}
  {name : HeaderName} {value : String}

/-- The URI that an edit puts in the place of another. -/
def replacement? : Edit → Option Uri
  | .uri u => some u
  | _ => none

/-- The text that an edit puts behind the body. -/
def suffix : Edit → String
  | .bodySuffix suffix => suffix
  | _ => ""

/-- The header that an edit offers on attempt `n`, at a URI. -/
def header? (i : Instance) (n : Nat) (u : Uri) : Edit → Option (HeaderName × String)
  | .header name value => some (name, value)
  | .instanceId name => some (name, i.id)
  | .metadata name key => (i.metadata.get? key).map (name, ·)
  | .attempt name => some (name, toString n)
  | .echoUri name => some (name, u.text)
  | .uri _ => none
  | .bodySuffix _ => none

theorem addHeader_eq :
    addHeader name value r = { r with headers := r.headers.offer (some (name, value)) } := by
  unfold addHeader Headers.offer
  dsimp only
  cases isHeaderValue value <;> rfl

/-- **An edit adds at most one header, replaces at most the URI and lengthens at most the body.** -/
theorem toTransformer_eq :
    e.toTransformer i r =
      { r with
        uri := e.replacement?.getD r.uri
        headers := r.headers.offer (e.header? i r.attempt r.uri)
        body := r.body ++ e.suffix } := by
  have unchanged : r.body ++ "" = r.body := String.append_empty
  cases e with
  | header | instanceId | attempt | echoUri =>
      simp only [toTransformer, addHeader_eq, suffix, unchanged]
      rfl
  | metadata name key =>
      simp only [toTransformer, suffix, unchanged]
      cases known : i.metadata.get? key with
      | none => simp only [header?, known]; rfl
      | some value => simp only [header?, known, addHeader_eq]; rfl
  | uri u =>
      simp only [toTransformer, suffix, unchanged]
      rfl
  | bodySuffix s => rfl

/-! ### One edit after another -/

/-- The URI after edits: the last that was put in place, or the one there was before them. -/
def uriAfter (u : Uri) (edits : List Edit) : Uri := (edits.filterMap replacement?).getLast?.getD u

/-- The value that an edit adds under a name; an illegal one adds nothing. -/
def valueFor? (i : Instance) (n : Nat) (u : Uri) (name : HeaderName) (e : Edit) : Option String :=
  match e.header? i n u with
  | none => none
  | some (m, value) => if m = name ∧ isHeaderValue value = true then some value else none

/-- The values that edits add under a name, each of them at the URI that those before it leave. -/
def valuesFor (i : Instance) (n : Nat) (u : Uri) (name : HeaderName) (edits : List Edit) :
    List String :=
  edits.zipIdx.filterMap fun (e, k) => e.valueFor? i n (uriAfter u (edits.take k)) name

/-- One more edit keeps the URI unless it puts another in its place. -/
theorem uriAfter_concat :
    uriAfter u (edits ++ [e]) = e.replacement?.getD (uriAfter u edits) := by
  unfold uriAfter
  rw [List.filterMap_append, List.getLast?_append]
  cases h : e.replacement? with
  | none => simp [h]
  | some u' => simp [h]

/-- One more edit adds at most one value, at the end. -/
theorem valuesFor_concat :
    valuesFor i n u name (edits ++ [e]) =
      valuesFor i n u name edits ++ (e.valueFor? i n (uriAfter u edits) name).toList := by
  unfold valuesFor
  rw [List.zipIdx_append, List.filterMap_append, List.zipIdx_singleton, Nat.zero_add]
  congr 1
  · refine List.filterMap_congr fun x mem => ?_
    have before : x.2 ≤ edits.length := Nat.le_of_lt (List.snd_lt_of_mem_zipIdx mem)
    dsimp only
    rw [List.take_append_of_le_length before]
  · have all : (edits ++ [e]).take edits.length = edits := List.take_left
    rw [List.filterMap_cons, List.filterMap_nil]
    dsimp only
    rw [all]
    cases e.valueFor? i n (uriAfter u edits) name <;> rfl

theorem values_offer {h : Headers} :
    (h.offer (e.header? i n u)).values name = h.values name ++ (e.valueFor? i n u name).toList := by
  unfold Headers.offer valueFor?
  cases e.header? i n u with
  | none => exact (List.append_nil _).symm
  | some x =>
      obtain ⟨m, value⟩ := x
      dsimp only
      cases legal : isHeaderValue value with
      | false => simp
      | true => by_cases same : name = m <;> simp [same, eq_comm]

end Edit

/-- What edits have made of a request that was addressed to an instance. -/
structure Request.Edited (raw : Request) (i : Instance) (n : Nat) (addressed : Uri)
    (edits : List Edit) (r : Request) : Prop where
  method : r.method = raw.method
  attempt : r.attempt = n
  uri : r.uri = Edit.uriAfter addressed edits
  headers : ∀ name, r.headers.values name =
    raw.headers.values name ++ Edit.valuesFor i n addressed name edits
  body : r.body = raw.body ++ String.join (edits.map Edit.suffix)

/-- One more edit. -/
theorem Request.Edited.concat {raw r : Request} {i : Instance} {n : Nat} {addressed : Uri}
    {edits : List Edit} {e : Edit} (h : raw.Edited i n addressed edits r) :
    raw.Edited i n addressed (edits ++ [e]) (e.toTransformer i r) := by
  rw [Edit.toTransformer_eq]
  refine ⟨h.method, h.attempt, ?_, fun name => ?_, ?_⟩
  · rw [Edit.uriAfter_concat, h.uri]
  · rw [Edit.values_offer, h.headers, h.attempt, h.uri, Edit.valuesFor_concat, List.append_assoc]
  · rw [h.body, List.map_append, String.join_append, String.append_assoc]
    simp

namespace Pipeline

variable {raw r : Request} {i : Instance} {n : Nat} {addressed : Uri} {edits xs ys : List Edit}

theorem ofEdits_append_run :
    (ofEdits (xs ++ ys)).run i r = (ofEdits ys).run i ((ofEdits xs).run i r) := by
  unfold ofEdits
  rw [List.map_append, run_append]

theorem ofEdits_append_bind :
    (ofEdits (xs ++ ys)).bind raw i n =
      ((ofEdits xs).bind raw i n).map ((ofEdits ys).run i) := by
  unfold ofEdits
  rw [List.map_append, bind_append]

/-- All edits. -/
theorem run_edited :
    raw.Edited i n addressed edits
      ((ofEdits edits).run i { raw with uri := addressed, attempt := n }) := by
  induction edits using List.reverseRecOn with
  | nil => exact ⟨rfl, rfl, rfl, fun _ => (List.append_nil _).symm, String.append_empty.symm⟩
  | append_singleton edits e ih =>
      rw [ofEdits_append_run]
      exact ih.concat

end Pipeline

/-! ### Legal values -/

/-- Two names are one exactly when they are spelled alike in lower case. -/
theorem HeaderName.eq_iff_of_parse? {s t : String} {name name' : HeaderName}
    (hs : parse? s = some name) (ht : parse? t = some name') :
    name = name' ↔ s.toLower = t.toLower := by
  have lowered {s : String} {name : HeaderName} (h : parse? s = some name) :
      name = ⟨s.toLower⟩ := by
    unfold parse? at h
    split at h
    · cases h
    · rw [← Option.some.inj h, toLower_eq_iff.mpr String.toList_ofList.symm]
  rw [lowered hs, lowered ht, HeaderName.mk.injEq]

/-- A number is a legal header value. -/
theorem isHeaderValue_toString {n : Nat} : isHeaderValue (toString n) = true := by
  have digits : (toString n).toList = Nat.toDigits 10 n := by simp
  refine isHeaderValue_of_chars fun c hc => ?_
  rw [digits] at hc
  have scheme : isSchemeChar c = true := by
    simp [isSchemeChar, Char.isAlphanum, IsDigits.toDigits.digit c hc]
  exact isUriChar_of_scheme scheme

namespace Edit

variable {i : Instance} {n : Nat} {u : Uri} {edits : List Edit} {name : HeaderName}

/-- URIs that are spelled as those that are read stay so under edits. -/
theorem uriAfter_spelled (spelled : u.Spelled) (replaced : ∀ u', .uri u' ∈ edits → u'.Spelled) :
    (uriAfter u edits).Spelled := by
  unfold uriAfter
  cases last : (edits.filterMap replacement?).getLast? with
  | none => exact spelled
  | some u' =>
      obtain ⟨e, mem, put⟩ := List.mem_filterMap.mp (List.mem_of_getLast? last)
      cases e with
      | uri v =>
          cases put
          exact replaced u' mem
      | _ => cases put

/-- The ordinal of an attempt and the URI at any point are legal values, so they are always
added. -/
theorem valueFor?_attempt : (attempt name).valueFor? i n u name = some (toString n) :=
  if_pos ⟨rfl, isHeaderValue_toString⟩

theorem valueFor?_echoUri (spelled : u.Spelled) :
    (echoUri name).valueFor? i n u name = some u.text :=
  if_pos ⟨rfl, spelled.isHeaderValue_text⟩

end Edit

namespace Pipeline

/-- **A pipeline composes in list order, and it only adds.**  For an instance whose address can be
used, the bound request has the values of the raw request under every name and behind them those
that the edits add, in list order; the URI is the last one put in place, or else the one under the
instance's address; every suffix stands behind the body.  An edit that echoes the URI adds it as the
edits before it leave it: its text is a legal value if the URIs are spelled as those that are read
(`Uri.Parsed.spelled`). -/
theorem bind_edited (raw : Request) (i : Instance) (n : Nat)
    (usable : Authority.Legal i.authority.toList) :
    ∃ addressed, raw.uri.readdress i = .ok addressed ∧
      (∀ edits, ∃ r, (ofEdits edits).bind raw i n = .ok r ∧ raw.Edited i n addressed edits r) ∧
      (∀ name u, (Edit.attempt name).valueFor? i n u name = some (toString n)) ∧
      (raw.uri.Spelled → ∀ edits : List Edit, (∀ u, .uri u ∈ edits → u.Spelled) → ∀ name,
        (Edit.echoUri name).valueFor? i n (Edit.uriAfter addressed edits) name =
          some (Edit.uriAfter addressed edits).text) ∧
      (∀ s t name name', HeaderName.parse? s = some name → HeaderName.parse? t = some name' →
        (name = name' ↔ s.toLower = t.toLower)) ∧
      ∀ xs ys, (ofEdits (xs ++ ys)).bind raw i n =
        ((ofEdits xs).bind raw i n).map ((ofEdits ys).run i) := by
  rcases Uri.readdress_cases i with ⟨-, addressed⟩ | ⟨illegal, -⟩
  · have readdressed := addressed raw.uri
    refine ⟨_, readdressed, fun edits => ⟨_, ?_, run_edited⟩, fun name u => Edit.valueFor?_attempt,
      fun spelled edits replaced name => ?_, fun s t name name' => HeaderName.eq_iff_of_parse?,
      fun xs ys => ofEdits_append_bind⟩
    · unfold bind
      rw [readdressed]
    · have spelled' := spelled.of_readdress readdressed
      exact Edit.valueFor?_echoUri (Edit.uriAfter_spelled spelled' replaced)
  · exact absurd usable illegal

/-- Two echoes with a new URI between them, under the name of a header that the raw request has in
another letter case; an illegal value and an unknown key add nothing.  Both URIs are such as are
read, so that what is echoed last is the text of the URI in place. -/
theorem bind_edited_echo :
    let i : Instance := ⟨"users", "a", "10.0.0.7", 8443, true, .empty⟩
    let trace : HeaderName := ⟨"x-trace"⟩
    let raw : Request := { Request.ofUri .post (.absolute "http" ⟨"users"⟩ ⟨"/a", some "b"⟩) with
      headers := Headers.empty.append trace "0", body := "a" }
    let addressed : Uri := .absolute "https" ⟨"10.0.0.7:8443"⟩ ⟨"/a", some "b"⟩
    let next : Uri := .absolute "http" ⟨"mirror"⟩ .root
    let edits : List Edit := [.echoUri trace, .header ⟨"x-id"⟩ "a", .bodySuffix "b",
      .header trace "\n", .metadata trace "zone", .uri next, .echoUri trace, .bodySuffix ".",
      .attempt trace]
    HeaderName.parse? "X-Trace" = some trace ∧
      (Edit.echoUri trace).valueFor? i 2 (Edit.uriAfter addressed edits) trace = some next.text ∧
      ∃ r, (ofEdits edits).bind raw i 2 = .ok r ∧
        r.headers.values trace = ["0", "https://10.0.0.7:8443/a?b", "http://mirror/", "2"] ∧
        r.headers.values ⟨"x-id"⟩ = ["a"] ∧ r.uri = next ∧ r.body = "ab." ∧ r.attempt = 2 := by
  intro i trace raw addressed next edits
  have authority : i.authority = "10.0.0.7:8443" := by decide
  have readdressed : raw.uri.readdress i = .ok addressed := by
    rw [Uri.readdress, authority]
    rfl
  have usable : Authority.Legal i.authority.toList := by
    rw [authority]
    exact (Authority.parse_eq_ok_iff.mp (rfl : Authority.parse "10.0.0.7:8443" = .ok _)).1
  have spelled : raw.uri.Spelled := Uri.Parsed.spelled ⟨"http://users/a?b", rfl⟩
  have replaced : ∀ u, .uri u ∈ edits → u.Spelled := by
    intro u put
    obtain rfl : u = next := by simpa [edits] using put
    exact Uri.Parsed.spelled ⟨"http://mirror/", rfl⟩
  obtain ⟨addressed', readdressed', bound, -, echoed, -⟩ := bind_edited raw i 2 usable
  rw [readdressed] at readdressed'
  cases readdressed'
  obtain ⟨r, hr, edited⟩ := bound edits
  refine ⟨by decide +kernel, echoed spelled edits replaced trace, r, hr, ?_, ?_, edited.uri, ?_,
    edited.attempt⟩
  · rw [edited.headers]
    decide +kernel
  · rw [edited.headers]
    decide +kernel
  · rw [edited.body]
    decide +kernel

end Pipeline

end Failover
