import Failover.Config.Reader
import Failover.Config.Writer
import Failover.Proofs.Json.RoundTrip

/-!
# Configuration — reading what was written

Properties that are written as JSON and read again are the same: every field of every record is
found under its name, so none falls back to its default, and the sets, the map and the names in it
come back as they were.  Of the jitters it is assumed that the number of each is read as the double
that it was written for.

* `fieldsOf_ofMembers`: the fields of a record that is written with all its members.
* `BackoffConfig.ofJson_toJson`, `RetryConfig.ofJson_toJson`, `Properties.ofJson_toJson`: the
  records.
* `Properties.load_text`: the text of properties.
-/

namespace Failover

/-- A double whose number is read as the double. -/
structure Json.Exact (x : Float) : Prop where
  finite : x.isFinite = true
  read : (Numeral.ofFloat Json.numberFormat x).toFloat? = some x

/-! ### Members -/

section

variable {names : List String} {ms : List (String × Json)} {name : String}

/-- The first member under a name is what a look-up finds. -/
theorem firstMember_ofMembers :
    firstMember name (ms.map fun m => (some m.1, m.2)) = ms.lookup name := by
  induction ms with
  | nil => rfl
  | cons m ms ih =>
      have h : firstMember name ((some m.1, m.2) :: ms.map fun m => (some m.1, m.2)) =
          if m.1 = name then some m.2 else firstMember name (ms.map fun m => (some m.1, m.2)) := by
        by_cases hm : m.1 = name <;> simp [firstMember, hm]
      rw [List.map_cons, h, ih, List.lookup_cons]
      by_cases hm : m.1 = name
      · simp [hm]
      · have hb : (name == m.1) = false := beq_false_of_ne (Ne.symm hm)
        rw [if_neg hm, hb]

/-- A name occurs as often as among the names that are written. -/
theorem memberCount_ofMembers :
    memberCount name (ms.map fun m => (some m.1, m.2)) = (ms.map Prod.fst).count name := by
  rw [memberCount, List.count, List.countP_map, List.countP_map]
  rfl

/-- The fields of a record are its members, if each of its names is written once. -/
theorem fieldsOf_ofMembers (written : ms.map Prod.fst = names) (nodup : names.Nodup) :
    fieldsOf names (.ofMembers ms) = some fun name => ms.lookup name := by
  have text : (ms.map fun m => (some m.1, m.2)).all (fun m => m.1.isSome) = true := by simp
  have once : names.all (fun name => memberCount name (ms.map fun m => (some m.1, m.2)) ≤ 1) =
      true := by
    rw [List.all_eq_true]
    intro name _
    rw [memberCount_ofMembers, written]
    exact decide_eq_true (List.nodup_iff_count.mp nodup name)
  rw [Json.ofMembers, fieldsOf, text, once]
  exact congrArg some (funext fun name => firstMember_ofMembers)

end

/-! ### Values -/

@[simp] theorem Json.nat?_ofNat {n : Nat} : (Json.ofNat n).nat? = some n := Numeral.toNat?_ofNat

@[simp] theorem Json.uint64?_ofNat {n : UInt64} : (Json.ofNat n.toNat).uint64? = some n := by
  rw [uint64?, nat?_ofNat]
  dsimp only
  rw [if_pos n.toNat_lt, Nat.toUInt64_eq, UInt64.ofNat_toNat]

@[simp] theorem Json.uint16?_ofNat {n : UInt16} : (Json.ofNat n.toNat).uint16? = some n := by
  rw [uint16?, nat?_ofNat]
  dsimp only
  rw [if_pos n.toNat_lt, Nat.toUInt16_eq, UInt16.ofNat_toNat]

theorem Json.float?_ofFloat {x : Float} (h : Exact x) : (Json.ofFloat x).float? = some x := by
  rw [ofFloat, if_pos h.finite, float?, h.read]

theorem readOptional_uint64 {n : UInt64} :
    readOptional Json.uint64? (.ofNat n.toNat) = some (some n) :=
  congrArg (Option.map some) Json.uint64?_ofNat

/-- Items that read back one by one read back together. -/
theorem mapM_map_eq_some {α β : Type} {write : α → β} {read : β → Option α} {l : List α}
    (h : ∀ a ∈ l, read (write a) = some a) : (l.map write).mapM read = some l := by
  induction l with
  | nil => rfl
  | cons a l ih =>
      rw [List.map_cons, List.mapM_cons, h a List.mem_cons_self,
        ih fun x hx => h x (List.mem_cons_of_mem a hx)]
      rfl

/-! ### Records -/

/-- A backoff is read as it was written. -/
theorem BackoffConfig.ofJson_toJson {c : BackoffConfig} (h : Json.Exact c.jitter) :
    ofJson c.toJson = some c := by
  obtain ⟨enabled, minMillis, maxMillis, jitter⟩ := c
  rw [ofJson, toJson, fieldsOf_ofMembers]
  · -- Every field is found, so no default is taken.
    simp only [Option.bind_eq_bind, Option.bind_some, List.lookup_cons, String.reduceBEq, BEq.rfl]
    cases maxMillis with
    | none =>
        simp only [fieldOr, Json.bool?, Json.uint64?_ofNat, readOptional, Json.float?_ofFloat h,
          Option.bind_some, Option.pure_def]
    | some n =>
        simp only [fieldOr, Json.bool?, Json.uint64?_ofNat, readOptional_uint64,
          Json.float?_ofFloat h, Option.bind_some, Option.pure_def]
  · rfl
  · decide

/-- A set of codes is read as it was written. -/
theorem readItems_uint16 {s : OrderedSet UInt16} :
    (readItems Json.uint16? (.array (s.toList.map fun n => .ofNat n.toNat))).map .ofList =
      some s := by
  rw [readItems, mapM_map_eq_some fun _ _ => Json.uint16?_ofNat]
  exact congrArg some (OrderedSet.ofList_toList s)

/-- So is a set of kinds of failures. -/
theorem readItems_failureKind {s : OrderedSet FailureKind} :
    (readItems readFailureKind (.array (s.toList.map fun k => .ofString k.keyword))).map .ofList =
      some s := by
  have kind : ∀ k ∈ s.toList, readFailureKind (.ofString k.keyword) = some k :=
    fun k _ => FailureKind.ofKeyword?_keyword k
  rw [readItems, mapM_map_eq_some kind]
  exact congrArg some (OrderedSet.ofList_toList s)

/-- The settings of a service are read as they were written. -/
theorem RetryConfig.ofJson_toJson {c : RetryConfig} (h : Json.Exact c.backoff.jitter) :
    ofJson c.toJson = some c := by
  rw [ofJson, toJson, fieldsOf_ofMembers]
  · simp only [Option.bind_eq_bind, Option.bind_some, List.lookup_cons, String.reduceBEq, BEq.rfl]
    simp only [fieldOr, Json.bool?, Json.uint64?_ofNat, readItems_uint16, readItems_failureKind,
      BackoffConfig.ofJson_toJson h, Option.bind_some, Option.pure_def]
  · rfl
  · decide

/-- The jitters of properties: that of the defaults and those of the services. -/
def Properties.jitters (p : Properties) : List Float :=
  (p.defaults :: p.services.values).map (·.backoff.jitter)

/-- The services are read as they were written. -/
theorem readServices_ofMembers {m : OrderedMap String RetryConfig}
    (h : ∀ c ∈ m.values, Json.Exact c.backoff.jitter) :
    readServices (.ofMembers (m.entries.map fun e => (e.1, e.2.toJson))) = some m := by
  rw [Json.ofMembers, List.map_map, readServices, mapM_map_eq_some]
  · exact congrArg some (OrderedMap.ofList_entries m)
  · intro e he
    have entry : RetryConfig.ofJson e.2.toJson = some e.2 :=
      RetryConfig.ofJson_toJson (h e.2 (List.mem_map_of_mem he))
    exact congrArg (Option.map fun c => (e.1, c)) entry

theorem Properties.ofJson_toJson {p : Properties} (h : ∀ x ∈ p.jitters, Json.Exact x) :
    ofJson p.toJson = some p := by
  have defaults : RetryConfig.ofJson p.defaults.toJson = some p.defaults :=
    RetryConfig.ofJson_toJson (h _ List.mem_cons_self)
  have services : readServices (.ofMembers (p.services.entries.map fun e => (e.1, e.2.toJson))) =
      some p.services :=
    readServices_ofMembers fun c hc => h _ (List.mem_cons_of_mem _ (List.mem_map_of_mem hc))
  rw [ofJson, toJson, fieldsOf_ofMembers]
  · simp only [Option.bind_eq_bind, Option.bind_some, List.lookup_cons, String.reduceBEq, BEq.rfl]
    simp only [fieldOr, Json.bool?, defaults, services, Option.bind_some, Option.pure_def]
  · rfl
  · decide

/-! ### Texts -/

theorem Json.Writable.ofMembers {ms : List (String × Json)} (h : ∀ m ∈ ms, m.2.Writable) :
    Writable (.ofMembers ms) := by
  refine .object ?_ ?_
  · intro m hm
    obtain ⟨x, -, rfl⟩ := List.mem_map.mp hm
    rfl
  · intro m hm
    obtain ⟨x, hx, rfl⟩ := List.mem_map.mp hm
    exact h x hx

theorem Json.Writable.ofNat {n : Nat} : Writable (.ofNat n) := .number .ofNat

theorem Json.Writable.ofFloat {x : Float} : Writable (.ofFloat x) := by
  unfold Json.ofFloat
  split
  · exact .number .ofFloat
  · exact .null

theorem BackoffConfig.toJson_writable {c : BackoffConfig} : c.toJson.Writable := by
  refine .ofMembers ?_
  simp only [List.forall_mem_cons, List.not_mem_nil, false_implies, implies_true, and_true]
  refine ⟨.bool _, .ofNat, ?_, .ofFloat⟩
  cases c.maxMillis with
  | none => exact .null
  | some n => exact .ofNat

theorem RetryConfig.toJson_writable {c : RetryConfig} : c.toJson.Writable := by
  refine .ofMembers ?_
  simp only [List.forall_mem_cons, List.not_mem_nil, false_implies, implies_true, and_true]
  refine ⟨.bool _, .bool _, .ofNat, .ofNat, .array ?_, .array ?_, BackoffConfig.toJson_writable⟩
  · intro v hv
    obtain ⟨n, -, rfl⟩ := List.mem_map.mp hv
    exact .ofNat
  · intro v hv
    obtain ⟨k, -, rfl⟩ := List.mem_map.mp hv
    exact .string _

theorem Properties.toJson_writable {p : Properties} : p.toJson.Writable := by
  refine .ofMembers ?_
  simp only [List.forall_mem_cons, List.not_mem_nil, false_implies, implies_true, and_true]
  refine ⟨.bool _, RetryConfig.toJson_writable, .ofMembers ?_⟩
  intro m hm
  obtain ⟨e, -, rfl⟩ := List.mem_map.mp hm
  exact RetryConfig.toJson_writable

/-- What is read is checked, and it is what is loaded. -/
theorem Properties.load_eq {text : String} :
    load text =
      match (Json.parse text).bind ofJson with
      | none => .error .unreadable
      | some p => p.validate.map fun _ => p := by
  rw [load]
  cases (Json.parse text).bind ofJson with
  | none => rfl
  | some p =>
      dsimp only
      cases p.validate <;> rfl

/-- **Properties are loaded as they were written.**  They must be valid, as they are checked when
they are loaded, and each jitter must be a finite double whose number is read as it. -/
theorem Properties.load_text {p : Properties} (valid : p.validate = .ok ())
    (finite : ∀ x ∈ p.jitters, x.isFinite = true)
    (exact : ∀ x ∈ p.jitters, (Numeral.ofFloat Json.numberFormat x).toFloat? = some x) :
    load p.text = .ok p := by
  have parsed : Json.parse p.text = some p.toJson := Json.parse_text toJson_writable
  have read : ofJson p.toJson = some p := ofJson_toJson fun x hx => ⟨finite x hx, exact x hx⟩
  rw [load, parsed, Option.bind_some, read]
  dsimp only
  rw [valid]

/-- A service whose name needs every kind of escape, next to one without a ceiling for its delays.
-/
theorem Properties.load_text_escaped :
    let config : RetryConfig :=
      { RetryConfig.default with
        statusCodes := .ofList [503, 429], failures := .ofList [.other, .cancelled],
        backoff := ⟨true, 5, some 100, 0.25⟩ }
    let p := (Properties.default.withService "" .default).withService "a \"b\" \\ \n \x01 é" config
    p.services.keys.length = 2 ∧ load p.text = .ok p := by
  intro config p
  have valid : p.validate.isOk = true := by decide +kernel
  refine ⟨by decide +kernel, load_text ?_ ?_ ?_⟩
  · cases h : p.validate with
    | ok u => rfl
    | error e =>
        rw [h] at valid
        cases valid
  · decide +kernel
  · decide +kernel

end Failover
