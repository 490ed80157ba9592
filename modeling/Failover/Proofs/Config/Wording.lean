import Failover.Proofs.Config.RoundTrip
import Failover.Proofs.Ordered
import Mathlib.Logic.Function.Basic
import Mathlib.Logic.Relation
import Mathlib.Tactic.MkIffOfInductiveProp

/-!
# Configuration — what the wording of a document leaves open

The same properties can be worded in many ways: members may come in any order, what is no field of a
record says nothing, a set may be listed in any order and with repetitions, and a field may be left
out or written with its default.  None of this makes a difference to what is loaded.  Two defaults
look alike and are not: properties without defaults switch retries off for the services that they do
not list, and properties with defaults that say nothing switch them on.

* `Json.Reworded`: another wording of one record.
* `Properties.Reworded`: another wording of a document, at one place of it.
* `BackoffConfig.SaidBy`, `RetryConfig.SaidBy`, `Properties.SaidBy`: what the fields of a record
  say.
* `Properties.load_reworded`: loading.
-/

namespace Failover

/-! ### Wordings of a record -/

/-- Another wording of a record with the given names of fields, some of which have a default that
can be written, and some of which can be worded in another way themselves. -/
inductive Json.Reworded (names : List String) (isDefault : String → Json → Prop)
    (rewords : String → Json → Json → Prop) : Json → Json → Prop where
  | permuted {ms ms' : List (StringContent × Json)} (perm : ms.Perm ms') :
      Reworded names isDefault rewords (.object ms) (.object ms')
  | unknown {ms : List (StringContent × Json)} {name : String} {j : Json} (new : name ∉ names) :
      Reworded names isDefault rewords (.object ms) (.object ((some name, j) :: ms))
  | omitted {ms : List (StringContent × Json)} {name : String} {j : Json}
      (absent : some name ∉ ms.map Prod.fst) (default : isDefault name j) :
      Reworded names isDefault rewords (.object ms) (.object ((some name, j) :: ms))
  | field {ms : List (StringContent × Json)} {name : String} {j j' : Json}
      (h : rewords name j j') :
      Reworded names isDefault rewords (.object ((some name, j) :: ms))
        (.object ((some name, j') :: ms))

/-- The defaults of a backoff. -/
inductive BackoffConfig.IsDefault : String → Json → Prop where
  | enabled : IsDefault "enabled" (.bool false)
  | minMillis : IsDefault "min_backoff_ms" (.ofNat 5)
  | maxMillis : IsDefault "max_backoff_ms" .null
  | jitter {n : Numeral} (half : n.toFloat? = some 0.5) : IsDefault "jitter" (.number n)

/-- Another wording of a backoff. -/
abbrev BackoffConfig.Reworded : Json → Json → Prop :=
  Json.Reworded fieldNames IsDefault fun _ _ _ => False

/-- The defaults of a configuration. -/
inductive RetryConfig.IsDefault : String → Json → Prop where
  | enabled : IsDefault "enabled" (.bool true)
  | allOperations : IsDefault "retry_on_all_operations" (.bool false)
  | sameInstance : IsDefault "max_attempts_same_instance" (.ofNat 1)
  | nextInstance : IsDefault "max_attempts_next_instance" (.ofNat 1)
  | statusCodes : IsDefault "retryable_status_codes" (.array [])
  | failures : IsDefault "retryable_failures"
      (.array [.ofString "connect", .ofString "timeout", .ofString "reset"])
  | backoff : IsDefault "backoff" (.object [])

/-- Another wording of a field of a configuration: a set may be listed in another way. -/
inductive RetryConfig.FieldReworded : String → Json → Json → Prop where
  | statusCodes {items items' : List Json} (same : ∀ x, x ∈ items ↔ x ∈ items') :
      FieldReworded "retryable_status_codes" (.array items) (.array items')
  | failures {items items' : List Json} (same : ∀ x, x ∈ items ↔ x ∈ items') :
      FieldReworded "retryable_failures" (.array items) (.array items')
  | backoff {j j' : Json} (h : BackoffConfig.Reworded j j') : FieldReworded "backoff" j j'

/-- Another wording of a configuration. -/
abbrev RetryConfig.Reworded : Json → Json → Prop :=
  Json.Reworded fieldNames IsDefault FieldReworded

/-- Another wording of the services.  Of entries under one name the last would stand, so their order
is free only where no name is repeated. -/
inductive Properties.ServicesReworded : Json → Json → Prop where
  | permuted {ms ms' : List (StringContent × Json)} (distinct : (ms.map Prod.fst).Nodup)
      (perm : ms.Perm ms') : ServicesReworded (.object ms) (.object ms')
  | entry {before after : List (StringContent × Json)} {name : StringContent} {j j' : Json}
      (h : RetryConfig.Reworded j j') :
      ServicesReworded (.object (before ++ (name, j) :: after))
        (.object (before ++ (name, j') :: after))

/-- The defaults of properties: without defaults for the services nothing is retried, as a
configuration says that is switched off and leaves the rest out. -/
inductive Properties.IsDefault : String → Json → Prop where
  | enabled : IsDefault "enabled" (.bool true)
  | defaults : IsDefault "defaults" (.ofMembers [("enabled", .bool false)])
  | services : IsDefault "services" (.object [])

/-- Another wording of a field of properties. -/
inductive Properties.FieldReworded : String → Json → Json → Prop where
  | defaults {j j' : Json} (h : RetryConfig.Reworded j j') : FieldReworded "defaults" j j'
  | services {j j' : Json} (h : ServicesReworded j j') : FieldReworded "services" j j'

/-- Another wording of a document, at one place of it. -/
abbrev Properties.Reworded : Json → Json → Prop :=
  Json.Reworded fieldNames IsDefault FieldReworded

/-! ### Members -/

/-- The members are those of a record: their names are text, and no field is repeated. -/
structure IsRecord (names : List String) (ms : List (StringContent × Json)) : Prop where
  text : ∀ m ∈ ms, m.1.isSome = true
  once : ∀ name ∈ names, memberCount name ms ≤ 1

section

variable {names : List String} {name other : String} {j j' : Json}
  {ms ms' : List (StringContent × Json)}

theorem fieldsOf_eq_some_iff {field : Fields} :
    fieldsOf names (.object ms) = some field ↔
      IsRecord names ms ∧ (fun name => firstMember name ms) = field := by
  rw [fieldsOf, Option.ite_none_right_eq_some, Bool.and_eq_true, List.all_eq_true,
    List.all_eq_true, Option.some_inj]
  refine and_congr_left fun _ => ⟨?_, ?_⟩
  · rintro ⟨text, once⟩
    exact ⟨text, fun name hn => of_decide_eq_true (once name hn)⟩
  · rintro ⟨text, once⟩
    exact ⟨text, fun name hn => decide_eq_true (once name hn)⟩

/-! #### A member at the front -/

theorem memberCount_cons :
    memberCount other ((some name, j) :: ms) =
      memberCount other ms + if name = other then 1 else 0 := by
  rw [memberCount, List.countP_cons]
  simp [memberCount]

theorem memberCount_eq_zero_iff : memberCount name ms = 0 ↔ some name ∉ ms.map Prod.fst := by
  rw [memberCount, List.countP_eq_zero, List.mem_map]
  simp only [beq_iff_eq, not_exists, not_and]

/-- A member at the front is the first under its name. -/
theorem firstMember_cons :
    (fun other => firstMember other ((some name, j) :: ms)) =
      Function.update (fun other => firstMember other ms) name (some j) := by
  funext other
  by_cases h : name = other
  · rw [← h, Function.update_self]
    simp [firstMember]
  · rw [Function.update_of_ne (Ne.symm h)]
    simp [firstMember, h]

theorem firstMember_eq_none (absent : some name ∉ ms.map Prod.fst) :
    firstMember name ms = none := by
  rw [firstMember, Option.map_eq_none_iff, List.find?_eq_none]
  exact List.countP_eq_zero.mp (memberCount_eq_zero_iff.mpr absent)

/-- A member may be added that is no field, or that is the first of its name. -/
theorem isRecord_cons_iff (new : name ∉ names ∨ some name ∉ ms.map Prod.fst) :
    IsRecord names ((some name, j) :: ms) ↔ IsRecord names ms := by
  have once : ∀ other ∈ names,
      memberCount other ((some name, j) :: ms) ≤ 1 ↔ memberCount other ms ≤ 1 := by
    intro other mem
    rw [memberCount_cons]
    by_cases h : name = other
    · subst h
      rw [memberCount_eq_zero_iff.mpr (new.resolve_left (fun new => new mem))]
      simp
    · rw [if_neg h, Nat.add_zero]
  constructor
  · rintro ⟨text, unique⟩
    exact ⟨(List.forall_mem_cons.mp text).2,
      fun other mem => (once other mem).mp (unique other mem)⟩
  · rintro ⟨text, unique⟩
    exact ⟨List.forall_mem_cons.mpr ⟨rfl, text⟩,
      fun other mem => (once other mem).mpr (unique other mem)⟩

/-- What a member holds does not matter for that. -/
theorem IsRecord.replace (h : IsRecord names ((some name, j) :: ms)) :
    IsRecord names ((some name, j') :: ms) := by
  refine ⟨List.forall_mem_cons.mpr ⟨rfl, (List.forall_mem_cons.mp h.text).2⟩, fun other mem => ?_⟩
  rw [memberCount_cons, ← memberCount_cons (j := j)]
  exact h.once other mem

/-! #### Any order -/

theorem IsRecord.perm (h : IsRecord names ms) (perm : ms.Perm ms') : IsRecord names ms' where
  text m hm := h.text m (perm.mem_iff.mpr hm)
  once name hn := by
    rw [memberCount, ← perm.countP_eq]
    exact h.once name hn

/-- A member that is not repeated is the first under its name in any order. -/
theorem firstMember_perm (perm : ms.Perm ms') (once : memberCount name ms ≤ 1) :
    firstMember name ms = firstMember name ms' := by
  -- The members under the name are at most one, and one member has only one order.
  have found := perm.filter fun m => m.1 == some name
  rw [memberCount, List.countP_eq_length_filter] at once
  rw [firstMember, firstMember, ← List.head?_filter, ← List.head?_filter]
  cases hf : ms.filter fun m => m.1 == some name with
  | nil =>
      rw [hf] at found
      rw [List.nil_perm.mp found]
  | cons m rest =>
      rw [hf, List.length_cons] at once
      obtain rfl := List.length_eq_zero_iff.mp (Nat.le_zero.mp (Nat.le_of_succ_le_succ once))
      rw [hf] at found
      rw [List.singleton_perm.mp found]

end

/-! ### Records -/

/-- Some meaning of the fields that other wordings leave as it is. -/
structure Indifferent (names : List String) (isDefault : String → Json → Prop)
    (rewords : String → Json → Json → Prop) (means : Fields → Prop) : Prop where
  of_agree : ∀ f g : Fields, (∀ name ∈ names, f name = g name) → means f → means g
  default : ∀ (f : Fields) (name : String) (j : Json), isDefault name j → f name = none →
    (means f ↔ means (Function.update f name (some j)))
  rewords : ∀ (f : Fields) (name : String) (j j' : Json), rewords name j j' → f name = some j →
    (means f ↔ means (Function.update f name (some j')))

/-- A record whose fields mean something. -/
def Means (names : List String) (means : Fields → Prop) (j : Json) : Prop :=
  ∃ field, fieldsOf names j = some field ∧ means field

section

variable {names : List String} {isDefault : String → Json → Prop}
  {rewords : String → Json → Json → Prop} {means : Fields → Prop} {j j' : Json}
  {ms ms' : List (StringContent × Json)}

theorem means_object_iff :
    Means names means (.object ms) ↔ IsRecord names ms ∧ means fun name => firstMember name ms := by
  simp only [Means, fieldsOf_eq_some_iff, and_assoc, exists_and_left, exists_eq_left']

/-- In any order the fields of a record are the same. -/
theorem Indifferent.permuted (h : Indifferent names isDefault rewords means) (perm : ms.Perm ms')
    (m : Means names means (.object ms)) : Means names means (.object ms') := by
  obtain ⟨record, meant⟩ := means_object_iff.mp m
  refine means_object_iff.mpr ⟨record.perm perm, h.of_agree _ _ (fun name mem => ?_) meant⟩
  exact firstMember_perm perm (record.once name mem)

/-- **A record means the same in other words.** -/
theorem Json.Reworded.means_iff (h : Json.Reworded names isDefault rewords j j')
    (indifferent : Indifferent names isDefault rewords means) :
    Means names means j ↔ Means names means j' := by
  cases h with
  | permuted perm => exact ⟨indifferent.permuted perm, indifferent.permuted perm.symm⟩
  | unknown new =>
      rw [means_object_iff, means_object_iff, isRecord_cons_iff (.inl new), firstMember_cons]
      -- The new member is none of the fields.
      have other (f : Fields) (x : Option Json) (n : String) (mem : n ∈ names) :
          f n = Function.update f _ x n :=
        (Function.update_of_ne (ne_of_mem_of_not_mem mem new) x f).symm
      refine and_congr_right fun _ => ⟨indifferent.of_agree _ _ (other _ _), ?_⟩
      exact indifferent.of_agree _ _ fun n mem => (other _ _ n mem).symm
  | omitted absent default =>
      rw [means_object_iff, means_object_iff, isRecord_cons_iff (.inr absent), firstMember_cons]
      exact and_congr_right fun _ => indifferent.default _ _ _ default (firstMember_eq_none absent)
  | @field ms name j j' h =>
      have record :
          IsRecord names ((some name, j) :: ms) ↔ IsRecord names ((some name, j') :: ms) :=
        ⟨IsRecord.replace, IsRecord.replace⟩
      rw [means_object_iff, means_object_iff, record, firstMember_cons, firstMember_cons,
        indifferent.rewords _ _ _ _ h (Function.update_self _ _ _), Function.update_idem]

end

/-! ### Items -/

section

variable {α β γ : Type} {read : α → Option β} {l l' : List α}

/-- Items are read together if each of them can be read. -/
theorem mapM_eq_some_iff {found : List β} :
    l.mapM read = some found ↔ (∀ x ∈ l, (read x).isSome = true) ∧ l.filterMap read = found := by
  induction l generalizing found with
  | nil => simp
  | cons x l ih =>
      rw [List.mapM_cons, List.forall_mem_cons]
      cases hx : read x with
      | none => simp
      | some y =>
          rw [List.filterMap_cons_some hx]
          simp [Option.bind_eq_some_iff, ih]

/-- What is made of the same items is the same, if it does not depend on how they are listed. -/
theorem map_mapM_congr {make : List β → γ} (same : ∀ x, x ∈ l ↔ x ∈ l')
    (made : make (l.filterMap read) = make (l'.filterMap read)) :
    (l.mapM read).map make = (l'.mapM read).map make := by
  ext c
  simp only [Option.map_eq_some_iff, mapM_eq_some_iff, and_assoc, exists_and_left, exists_eq_left',
    same, made]

theorem readItems_congr [LT β] [LE β] [DecidableLT β] [Std.IsLinearOrder β] [Std.LawfulOrderLT β]
    {read : Json → Option β} {items items' : List Json} (same : ∀ x, x ∈ items ↔ x ∈ items') :
    (readItems read (.array items)).map OrderedSet.ofList =
      (readItems read (.array items')).map OrderedSet.ofList := by
  refine map_mapM_congr same (OrderedSet.ofList_congr fun y => ?_)
  simp only [List.mem_filterMap, same]

end

/-! ### What the records say -/

namespace BackoffConfig

/-- The fields say what the backoff is. -/
@[mk_iff]
structure SaidBy (c : BackoffConfig) (field : Fields) : Prop where
  enabled : fieldOr default.enabled Json.bool? (field "enabled") = some c.enabled
  minMillis : fieldOr default.minMillis Json.uint64? (field "min_backoff_ms") = some c.minMillis
  maxMillis : fieldOr default.maxMillis (readOptional Json.uint64?) (field "max_backoff_ms") =
    some c.maxMillis
  jitter : fieldOr default.jitter Json.float? (field "jitter") = some c.jitter

variable {j j' : Json} {c : BackoffConfig}

theorem ofJson_eq_some_iff : ofJson j = some c ↔ Means fieldNames c.SaidBy j := by
  obtain ⟨enabled, minMillis, maxMillis, jitter⟩ := c
  simp only [ofJson, Means, saidBy_iff, Option.bind_eq_bind, Option.bind_eq_some_iff,
    Option.pure_def, Option.some_inj, BackoffConfig.mk.injEq]
  constructor
  · rintro ⟨field, hf, _, h₁, _, h₂, _, h₃, _, h₄, rfl, rfl, rfl, rfl⟩
    exact ⟨field, hf, h₁, h₂, h₃, h₄⟩
  · rintro ⟨field, hf, h₁, h₂, h₃, h₄⟩
    exact ⟨field, hf, _, h₁, _, h₂, _, h₃, _, h₄, rfl, rfl, rfl, rfl⟩

theorem indifferent : Indifferent fieldNames IsDefault (fun _ _ _ => False) c.SaidBy where
  of_agree f g agree h := by
    simp only [fieldNames, List.forall_mem_cons] at agree
    obtain ⟨enabled, minMillis, maxMillis, jitter, -⟩ := agree
    exact ⟨enabled ▸ h.enabled, minMillis ▸ h.minMillis, maxMillis ▸ h.maxMillis,
      jitter ▸ h.jitter⟩
  default f name j h absent := by
    have five : (Json.ofNat 5).uint64? = some 5 := Json.uint64?_ofNat (n := 5)
    rw [saidBy_iff, saidBy_iff]
    cases h with
    | jitter half => simp [absent, fieldOr, default, Json.float?, half]
    | _ => simp [absent, fieldOr, default, Json.bool?, five, readOptional]
  rewords f name j j' h := h.elim

theorem ofJson_reworded (h : Reworded j j') : ofJson j = ofJson j' := by
  ext c
  rw [ofJson_eq_some_iff, ofJson_eq_some_iff, h.means_iff indifferent]

end BackoffConfig

namespace RetryConfig

/-- The fields say what the configuration is. -/
@[mk_iff]
structure SaidBy (c : RetryConfig) (field : Fields) : Prop where
  enabled : fieldOr default.enabled Json.bool? (field "enabled") = some c.enabled
  allOperations : fieldOr default.allOperations Json.bool? (field "retry_on_all_operations") =
    some c.allOperations
  sameInstance : fieldOr default.sameInstance Json.uint64? (field "max_attempts_same_instance") =
    some c.sameInstance
  nextInstance : fieldOr default.nextInstance Json.uint64? (field "max_attempts_next_instance") =
    some c.nextInstance
  statusCodes : fieldOr default.statusCodes (fun j => (readItems Json.uint16? j).map .ofList)
    (field "retryable_status_codes") = some c.statusCodes
  failures : fieldOr default.failures (fun j => (readItems readFailureKind j).map .ofList)
    (field "retryable_failures") = some c.failures
  backoff : fieldOr default.backoff BackoffConfig.ofJson (field "backoff") = some c.backoff

variable {j j' : Json} {c : RetryConfig}

theorem ofJson_eq_some_iff : ofJson j = some c ↔ Means fieldNames c.SaidBy j := by
  obtain ⟨enabled, allOperations, sameInstance, nextInstance, statusCodes, failures, backoff⟩ := c
  simp only [ofJson, Means, saidBy_iff, Option.bind_eq_bind, Option.bind_eq_some_iff,
    Option.pure_def, Option.some_inj, RetryConfig.mk.injEq]
  constructor
  · rintro ⟨field, hf, _, h₁, _, h₂, _, h₃, _, h₄, _, h₅, _, h₆, _, h₇, rfl, rfl, rfl, rfl, rfl,
      rfl, rfl⟩
    exact ⟨field, hf, h₁, h₂, h₃, h₄, h₅, h₆, h₇⟩
  · rintro ⟨field, hf, h₁, h₂, h₃, h₄, h₅, h₆, h₇⟩
    exact ⟨field, hf, _, h₁, _, h₂, _, h₃, _, h₄, _, h₅, _, h₆, _, h₇, rfl, rfl, rfl, rfl, rfl,
      rfl, rfl⟩

theorem indifferent : Indifferent fieldNames IsDefault FieldReworded c.SaidBy where
  of_agree f g agree h := by
    simp only [fieldNames, List.forall_mem_cons] at agree
    obtain ⟨enabled, allOperations, sameInstance, nextInstance, statusCodes, failures, backoff,
      -⟩ := agree
    exact ⟨enabled ▸ h.enabled, allOperations ▸ h.allOperations, sameInstance ▸ h.sameInstance,
      nextInstance ▸ h.nextInstance, statusCodes ▸ h.statusCodes, failures ▸ h.failures,
      backoff ▸ h.backoff⟩
  default f name j h absent := by
    have one : (Json.ofNat 1).uint64? = some 1 := Json.uint64?_ofNat (n := 1)
    rw [saidBy_iff, saidBy_iff]
    cases h with
    | statusCodes =>
        have empty : (readItems Json.uint16? (.array [])).map OrderedSet.ofList = some .empty := rfl
        simp [absent, fieldOr, default, empty]
    | failures =>
        have three : (readItems readFailureKind
            (.array [.ofString "connect", .ofString "timeout", .ofString "reset"])).map
              OrderedSet.ofList = some (.ofList [.connect, .timeout, .reset]) := rfl
        simp [absent, fieldOr, default, three]
    | backoff =>
        have bare : BackoffConfig.ofJson (.object []) = some .default := rfl
        simp [absent, fieldOr, default, bare]
    | _ => simp [absent, fieldOr, default, Json.bool?, one]
  rewords f name j j' h present := by
    rw [saidBy_iff, saidBy_iff]
    cases h with
    | statusCodes same => simp [present, fieldOr, readItems_congr same]
    | failures same => simp [present, fieldOr, readItems_congr same]
    | backoff h => simp [present, fieldOr, BackoffConfig.ofJson_reworded h]

theorem ofJson_reworded (h : Reworded j j') : ofJson j = ofJson j' := by
  ext c
  rw [ofJson_eq_some_iff, ofJson_eq_some_iff, h.means_iff indifferent]

end RetryConfig

/-! ### Services -/

theorem fst_of_readService {m : StringContent × Json} {e : String × RetryConfig}
    (h : readService m = some e) : m.1 = some e.1 := by
  obtain ⟨_ | name, j⟩ := m
  · cases h
  · obtain ⟨c, -, rfl⟩ := Option.map_eq_some_iff.mp h
    rfl

theorem readServices_reworded {j j' : Json} (h : Properties.ServicesReworded j j') :
    readServices j = readServices j' := by
  cases h with
  | @permuted ms ms' distinct perm =>
      have keys : ((ms.filterMap readService).map Prod.fst).Nodup := by
        rw [List.Nodup, List.pairwise_map, List.pairwise_filterMap]
        refine (List.pairwise_map.mp distinct).imp fun ne e he e' he' same => ne ?_
        rw [fst_of_readService he, fst_of_readService he', same]
      exact map_mapM_congr (fun _ => perm.mem_iff) (OrderedMap.ofList_perm (perm.filterMap _) keys)
  | @entry before after name j j' h =>
      have read : readService (name, j) = readService (name, j') := by
        cases name with
        | none => rfl
        | some name => rw [readService, readService, RetryConfig.ofJson_reworded h]
      rw [readServices, readServices, List.mapM_append, List.mapM_append, List.mapM_cons,
        List.mapM_cons, read]

/-! ### Documents -/

namespace Properties

/-- The fields say what the properties are. -/
@[mk_iff]
structure SaidBy (p : Properties) (field : Fields) : Prop where
  enabled : fieldOr default.enabled Json.bool? (field "enabled") = some p.enabled
  defaults : fieldOr default.defaults RetryConfig.ofJson (field "defaults") = some p.defaults
  services : fieldOr default.services readServices (field "services") = some p.services

variable {text text' : String} {j j' : Json} {p : Properties}

theorem ofJson_eq_some_iff : ofJson j = some p ↔ Means fieldNames p.SaidBy j := by
  obtain ⟨enabled, defaults, services⟩ := p
  simp only [ofJson, Means, saidBy_iff, Option.bind_eq_bind, Option.bind_eq_some_iff,
    Option.pure_def, Option.some_inj, Properties.mk.injEq]
  constructor
  · rintro ⟨field, hf, _, h₁, _, h₂, _, h₃, rfl, rfl, rfl⟩
    exact ⟨field, hf, h₁, h₂, h₃⟩
  · rintro ⟨field, hf, h₁, h₂, h₃⟩
    exact ⟨field, hf, _, h₁, _, h₂, _, h₃, rfl, rfl, rfl⟩

theorem indifferent : Indifferent fieldNames IsDefault FieldReworded p.SaidBy where
  of_agree f g agree h := by
    simp only [fieldNames, List.forall_mem_cons] at agree
    obtain ⟨enabled, defaults, services, -⟩ := agree
    exact ⟨enabled ▸ h.enabled, defaults ▸ h.defaults, services ▸ h.services⟩
  default f name j h absent := by
    rw [saidBy_iff, saidBy_iff]
    cases h with
    | enabled => simp [absent, fieldOr, default, Json.bool?]
    | defaults =>
        have off : RetryConfig.ofJson (.ofMembers [("enabled", .bool false)]) =
          some .disabled := rfl
        simp [absent, fieldOr, default, off]
    | services =>
        have none : readServices (.object []) = some .empty := rfl
        simp [absent, fieldOr, default, none]
  rewords f name j j' h present := by
    rw [saidBy_iff, saidBy_iff]
    cases h with
    | defaults h => simp [present, fieldOr, RetryConfig.ofJson_reworded h]
    | services h => simp [present, fieldOr, readServices_reworded h]

theorem ofJson_reworded (h : Reworded j j') : ofJson j = ofJson j' := by
  ext p
  rw [ofJson_eq_some_iff, ofJson_eq_some_iff, h.means_iff indifferent]

/-- A document may be worded in another way at many places. -/
theorem ofJson_of_eqvGen (h : Relation.EqvGen Reworded j j') : ofJson j = ofJson j' := by
  induction h with
  | rel j j' h => exact ofJson_reworded h
  | refl j => rfl
  | symm j j' _ ih => exact ih.symm
  | trans j j' j'' _ _ ih ih' => exact ih.trans ih'

/-- Defaults that say nothing, in a document that has no defaults. -/
inductive BareDefaults : Json → Json → Prop where
  | mk {ms : List (StringContent × Json)} (absent : some "defaults" ∉ ms.map Prod.fst) :
      BareDefaults (.object ms) (.object ((some "defaults", .object []) :: ms))

/-- The properties with their defaults switched on. -/
def withDefaultsOn (p : Properties) : Properties :=
  { p with defaults := { p.defaults with enabled := true } }

theorem saidBy_bareDefaults_iff {field : Fields} (absent : field "defaults" = none) :
    p.SaidBy (Function.update field "defaults" (some (.object []))) ↔
      ∃ q : Properties, q.SaidBy field ∧ q.withDefaultsOn = p := by
  have bare : RetryConfig.ofJson (.object []) = some .default := rfl
  constructor
  · intro h
    refine ⟨{ p with defaults := .disabled }, ⟨?_, ?_, ?_⟩, ?_⟩
    · exact h.enabled
    · rw [absent]
      rfl
    · exact h.services
    · have on : RetryConfig.default = p.defaults := by
        simpa [fieldOr, bare] using h.defaults
      exact congrArg (fun c => { p with defaults := c }) on
  · rintro ⟨q, h, rfl⟩
    have off : RetryConfig.disabled = q.defaults := by
      simpa [fieldOr, absent, default] using h.defaults
    refine ⟨h.enabled, ?_, h.services⟩
    rw [Function.update_self, withDefaultsOn, ← off]
    exact bare

theorem defaults_of_absent {ms : List (StringContent × Json)}
    (absent : some "defaults" ∉ ms.map Prod.fst) (h : ofJson (.object ms) = some p) :
    p.defaults = .disabled := by
  obtain ⟨-, said⟩ := means_object_iff.mp (ofJson_eq_some_iff.mp h)
  have off := said.defaults
  rw [firstMember_eq_none absent] at off
  exact (Option.some.inj off).symm

/-- Where there are no defaults, those that say nothing switch them on. -/
theorem ofJson_bareDefaults {ms : List (StringContent × Json)}
    (absent : some "defaults" ∉ ms.map Prod.fst) :
    ofJson (.object ((some "defaults", .object []) :: ms)) =
      (ofJson (.object ms)).map withDefaultsOn := by
  ext p
  rw [ofJson_eq_some_iff, Option.map_eq_some_iff, means_object_iff, isRecord_cons_iff (.inr absent),
    firstMember_cons, saidBy_bareDefaults_iff (firstMember_eq_none absent)]
  simp only [ofJson_eq_some_iff, means_object_iff, and_assoc, exists_and_left]

/-! ### Loading -/

/-- Whether defaults are valid does not depend on whether they are switched on. -/
theorem validate_withDefaultsOn : p.withDefaultsOn.validate = p.validate := rfl

/-- **What is loaded from a document does not depend on its wording.**  Members may come in any
order, unknown members may be added, sets may be listed in any way, and what is left out may be
written with its default; defaults that say nothing differ from no defaults in nothing but the
switch. -/
theorem load_reworded (parsed : Json.parse text = some j) (parsed' : Json.parse text' = some j') :
    (Relation.EqvGen Reworded j j' → load text' = load text) ∧
      (BareDefaults j j' → load text' = (load text).map withDefaultsOn ∧
        ∀ p, load text = .ok p → p.defaults = .disabled) := by
  rw [load_eq, load_eq, parsed, parsed', Option.bind_some, Option.bind_some]
  constructor
  · intro h
    rw [ofJson_of_eqvGen h]
  · rintro @⟨ms, absent⟩
    rw [ofJson_bareDefaults absent]
    cases hp : ofJson (.object ms) with
    | none => exact ⟨rfl, nofun⟩
    | some p =>
        rw [Option.map_some]
        dsimp only
        rw [validate_withDefaultsOn]
        cases p.validate with
        | error e => exact ⟨rfl, nofun⟩
        | ok u =>
            refine ⟨rfl, fun q hq => ?_⟩
            rw [← Except.ok.inj hq]
            exact defaults_of_absent absent hp

/-- A service whose entry says nothing, and the same with an empty set of codes and a note behind
the services: both are loaded, with the service's default configuration. -/
theorem load_reworded_users :
    let users := Json.ofMembers [("services", .ofMembers [("users", .ofMembers [])])]
    let codes := Json.ofMembers [("retryable_status_codes", .array [])]
    let noted := Json.ofMembers [("services", .ofMembers [("users", codes)]), ("note", .null)]
    load users.text = .ok (Properties.default.withService "users" .default) ∧
      load noted.text = load users.text ∧
      load (Json.ofMembers []).text = .ok Properties.default ∧
      load (Json.ofMembers [("defaults", .ofMembers [])]).text =
        (load (Json.ofMembers []).text).map withDefaultsOn := by
  intro users codes noted
  have written : RetryConfig.Reworded (.ofMembers []) codes :=
    .omitted List.not_mem_nil .statusCodes
  have entry : ServicesReworded (.ofMembers [("users", .ofMembers [])])
      (.ofMembers [("users", codes)]) :=
    @ServicesReworded.entry [] [] (some "users") _ _ written
  -- The codes are written, the note is put in front, and it is moved behind the services.
  have chain : Relation.EqvGen Reworded users noted := by
    refine .trans _ (.ofMembers [("services", .ofMembers [("users", codes)])]) _ (.rel _ _ ?_) ?_
    · exact .field (.services entry)
    · refine .trans _ _ _ (.rel _ _ (.unknown (by decide))) (.rel _ _ (.permuted (.swap _ _ _)))
  have bare : BareDefaults (.ofMembers []) (.ofMembers [("defaults", .ofMembers [])]) :=
    @BareDefaults.mk [] List.not_mem_nil
  have empty : (Json.ofMembers []).Writable := .ofMembers (List.forall_mem_nil _)
  have only {name : String} {j : Json} (h : j.Writable) : (Json.ofMembers [(name, j)]).Writable :=
    .ofMembers (List.forall_mem_singleton.mpr h)
  have both : noted.Writable := .ofMembers (List.forall_mem_cons.mpr
    ⟨only (only (.array (List.forall_mem_nil _))), List.forall_mem_singleton.mpr .null⟩)
  have read {j : Json} {p : Properties} (h : j.Writable) (value : ofJson j = some p)
      (valid : p.validate = .ok ()) : load j.text = .ok p := by
    rw [load_eq, Json.parse_text h, Option.bind_some, value]
    dsimp only
    rw [valid]
    rfl
  exact ⟨read (only (only empty)) rfl rfl,
    (load_reworded (Json.parse_text (only (only empty))) (Json.parse_text both)).1 chain,
    read empty rfl rfl,
    ((load_reworded (Json.parse_text empty) (Json.parse_text (only empty))).2 bare).1⟩

end Properties

end Failover
