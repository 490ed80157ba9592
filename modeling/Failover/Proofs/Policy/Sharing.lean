import Failover.Policy.Shared
import Failover.Proofs.Lists
import Mathlib.Data.List.Induction

/-!
# Policies — a registry and its clones as one finite map

However a registry is cloned, and through whichever clone it is used, it stays one map from names
to policies: a name resolves to the policy that was registered for it last, unless it was removed
since, and to the fallback otherwise.

* `RegistryOp`, `RegistrySession`: operations through the clones of a registry.
* `Registry.entryAfter`: the entry of a name as the operations tell it.
* `RegistrySession.Follows.perform`: one operation.
* `RegistrySession.performAll_refinesMap`: any number of them.
-/

namespace Failover

/-! ### Operations -/

/-- An operation through a registry or one of its clones.  The clones are numbered as they are made;
any other number stands for the registry that was there first. -/
inductive RegistryOp where
  | register (via : Nat) (service : String) (policy : Policy)
  | remove (via : Nat) (service : String)
  | lookup (via : Nat) (service : String)
  /-- Looks a policy up and keeps it. -/
  | hold (via : Nat) (service : String)
  | clone (via : Nat)
  /-- Registers through a clone that is dropped at once. -/
  | registerDropped (via : Nat) (service : String) (policy : Policy)

/-- What an operation answers. -/
inductive RegistryAnswer where
  | done
  | removed (present : Bool)
  | resolved (policy : Policy)

/-- A registry in use: its clones and the policies that were looked up and kept, both numbered as
they came, and the lines logged so far. -/
structure RegistrySession where
  store : RegistryStore
  first : RegistryRef
  clones : List RegistryRef
  held : List Policy
  lines : List LogLine

namespace RegistrySession

/-- A registry that was just created, beside others in the store. -/
def start (store : RegistryStore) (r : Registry) : RegistrySession :=
  ⟨(store.create r).2, (store.create r).1, [], [], []⟩

/-- The clone of a number. -/
def ref (w : RegistrySession) (via : Nat) : RegistryRef := (w.clones[via]?).getD w.first

/-- The registry as it is seen through the clone of a number. -/
def registry (w : RegistrySession) (via : Nat) : Registry := w.store.read (w.ref via)

/-- Registers through a reference. -/
def registerThrough (w : RegistrySession) (r : RegistryRef) (service : String) (policy : Policy) :
    RegistrySession :=
  { w with
    store := (w.store.register r service policy).2
    lines := w.lines ++ (w.store.register r service policy).1 }

/-- Performs an operation and says what came of it. -/
def perform (w : RegistrySession) : RegistryOp → RegistryAnswer × RegistrySession
  | .register via service policy => (.done, w.registerThrough (w.ref via) service policy)
  | .remove via service =>
    (.removed (w.store.remove (w.ref via) service).1,
      { w with store := (w.store.remove (w.ref via) service).2 })
  | .lookup via service => (.resolved ((w.registry via).policyFor service), w)
  | .hold via service =>
    (.done, { w with held := w.held ++ [(w.registry via).policyFor service] })
  | .clone via => (.done, { w with clones := w.clones ++ [(w.ref via).clone] })
  | .registerDropped via service policy =>
    (.done, w.registerThrough (w.ref via).clone service policy)

/-- Performs operations one after the other. -/
def performAll (w : RegistrySession) (ops : List RegistryOp) : RegistrySession :=
  ops.foldl (fun w op => (w.perform op).2) w

/-- One more operation at the end. -/
theorem performAll_concat {w : RegistrySession} {ops : List RegistryOp} {op : RegistryOp} :
    w.performAll (ops ++ [op]) = ((w.performAll ops).perform op).2 := by
  rw [performAll, List.foldl_append]
  rfl

end RegistrySession

/-! ### The map that the operations describe -/

/-- What an operation makes of the entry of a name, if it touches it. -/
def RegistryOp.edit? (service : String) : RegistryOp → Option (Option Policy)
  | .register _ s policy => if s = service then some (some policy) else none
  | .registerDropped _ s policy => if s = service then some (some policy) else none
  | .remove _ s => if s = service then some none else none
  | _ => none

/-- Whether an operation keeps a policy. -/
def RegistryOp.isHold : RegistryOp → Bool
  | .hold _ _ => true
  | _ => false

/-- The name that an operation registers a policy for. -/
def RegistryOp.registered? : RegistryOp → Option String
  | .register _ service _ => some service
  | .registerDropped _ service _ => some service
  | _ => none

namespace Registry

/-- The entry of a name after some operations: the policy that was registered last, if the name was
not removed since, and the entry of the beginning if the name was not touched. -/
def entryAfter (r : Registry) (ops : List RegistryOp) (service : String) : Option Policy :=
  ((ops.filterMap (RegistryOp.edit? service)).getLast?).getD (r.policies.get? service)

/-- The policy that a name resolves to after some operations. -/
def resolvedAfter (r : Registry) (ops : List RegistryOp) (service : String) : Policy :=
  (r.entryAfter ops service).getD r.fallback

variable {r : Registry} {ops : List RegistryOp} {op : RegistryOp} {service : String}

theorem entryAfter_nil : r.entryAfter [] service = r.policies.get? service := rfl

/-- One more operation decides the entry of a name if it touches it. -/
theorem entryAfter_concat :
    r.entryAfter (ops ++ [op]) service = (op.edit? service).getD (r.entryAfter ops service) := by
  rw [entryAfter, List.filterMap_append, List.getLast?_append]
  cases h : op.edit? service <;> simp [entryAfter, h]

end Registry

/-! ### One map behind all clones -/

namespace RegistrySession

variable {store : RegistryStore} {r : Registry} {ops : List RegistryOp} {op : RegistryOp}
  {w : RegistrySession} {policies : OrderedMap String Policy} {lines : List LogLine}

/-- The policies that were kept, each as the name resolved when it was looked up. -/
structure Keeps (r : Registry) (ops : List RegistryOp) (held : List Policy) : Prop where
  length : held.length = ops.countP RegistryOp.isHold
  kept : ∀ before via service after, ops = before ++ .hold via service :: after →
    held[before.countP RegistryOp.isHold]? = some (r.resolvedAfter before service)

/-- The session of a registry after some operations: every clone points to the map that was created
for it, the map has the entries that the operations tell, and the other maps of the store are as
they were. -/
structure Follows (store : RegistryStore) (r : Registry) (ops : List RegistryOp)
    (w : RegistrySession) : Prop where
  first : w.first = (store.create r).1
  clones : ∀ c ∈ w.clones, c = (store.create r).1
  bound : (store.create r).1.place < w.store.maps.length
  entries : ∀ service,
    (w.store.read (store.create r).1).policies.get? service = r.entryAfter ops service
  others : ∀ other : RegistryRef, other.place < store.maps.length →
    w.store.read other = store.read other
  keeps : Keeps r ops w.held

namespace Keeps

variable {held : List Policy}

theorem concat_of_not (k : Keeps r ops held) (h : op.isHold = false) :
    Keeps r (ops ++ [op]) held where
  length := by simp [k.length, h]
  kept before via service after split := by
    rcases split_concat split with ⟨-, rfl, -⟩ | ⟨between, -, earlier⟩
    · cases h
    · exact k.kept before via service between earlier

/-- A policy that is held is the one its name resolves to at that moment. -/
theorem concat_hold {via : Nat} {service : String} (k : Keeps r ops held) :
    Keeps r (ops ++ [.hold via service]) (held ++ [r.resolvedAfter ops service]) where
  length := by simp [k.length, RegistryOp.isHold]
  kept before via' service' after split := by
    rcases split_concat split with ⟨rfl, same, -⟩ | ⟨between, -, earlier⟩
    · cases same
      rw [← k.length, List.getElem?_concat_length]
    · have kept := k.kept before via' service' between earlier
      rw [List.getElem?_append_left (List.getElem?_eq_some_iff.mp kept).1, kept]

end Keeps

namespace Follows

theorem start : Follows store r [] (start store r) where
  first := rfl
  clones := by simp [RegistrySession.start]
  bound := by simp [RegistrySession.start, RegistryStore.create]
  entries service := by
    simp [RegistrySession.start, RegistryStore.create, RegistryStore.read, Registry.entryAfter_nil]
  others other h := by
    simp [RegistrySession.start, RegistryStore.create, RegistryStore.read,
      List.getElem?_append_left h]
  keeps := ⟨rfl, by simp⟩

/-- Every clone is the same reference. -/
theorem ref (f : Follows store r ops w) (via : Nat) : w.ref via = (store.create r).1 := by
  rw [RegistrySession.ref]
  cases h : w.clones[via]? with
  | none => exact f.first
  | some c => exact f.clones c (List.mem_of_getElem? h)

theorem registry (f : Follows store r ops w) (via : Nat) :
    w.registry via = w.store.read (store.create r).1 := by
  rw [RegistrySession.registry, f.ref via]

/-- Every clone resolves a name as the operations say. -/
theorem policyFor (f : Follows store r ops w) (via : Nat) (service : String) :
    (w.registry via).policyFor service = r.resolvedAfter ops service := by
  rw [f.registry, Registry.policyFor, f.entries, Registry.resolvedAfter]
  rfl

theorem contains (f : Follows store r ops w) (via : Nat) (service : String) :
    (w.registry via).contains service = (r.entryAfter ops service).isSome := by
  rw [f.registry, Registry.contains, OrderedMap.contains, f.entries]

/-! ### One operation -/

/-- Publishing a map is an operation that makes of every entry what the map has for it. -/
theorem publish (f : Follows store r ops w) (h : op.isHold = false)
    (entries : ∀ service, policies.get? service =
      (op.edit? service).getD (r.entryAfter ops service)) :
    Follows store r (ops ++ [op])
      { w with store := w.store.publish (store.create r).1 policies, lines := lines } where
  first := f.first
  clones := f.clones
  bound := by simpa using f.bound
  entries service := by
    rw [RegistryStore.read_publish_of_eq f.bound rfl, entries, Registry.entryAfter_concat]
  others other there := by
    have elsewhere : other.place ≠ (store.create r).1.place := Nat.ne_of_lt there
    rw [RegistryStore.read_publish_of_ne elsewhere, f.others other there]
  keeps := f.keeps.concat_of_not h

/-- Registering through any clone is followed. -/
theorem registerThrough {service : String} {policy : Policy} (f : Follows store r ops w)
    (h : op.isHold = false)
    (edit : ∀ s, op.edit? s = if service = s then some (some policy) else none) :
    Follows store r (ops ++ [op])
      (w.registerThrough (store.create r).1 service policy) :=
  f.publish h fun s => by
    rw [edit, Registry.register, OrderedMap.get?_insert, f.entries]
    by_cases hs : s = service
    · simp [hs]
    · simp [hs, Ne.symm hs]

/-- So is removing. -/
theorem remove {service : String} (f : Follows store r ops w) (h : op.isHold = false)
    (edit : ∀ s, op.edit? s = if service = s then some none else none) :
    Follows store r (ops ++ [op])
      { w with store := (w.store.remove (store.create r).1 service).2 } :=
  f.publish h fun s => by
    rw [edit, Registry.remove, OrderedMap.get?_erase, f.entries]
    by_cases hs : s = service
    · simp [hs]
    · simp [hs, Ne.symm hs]

theorem entries_concat (f : Follows store r ops w) (h : ∀ s, op.edit? s = none) (service : String) :
    (w.store.read (store.create r).1).policies.get? service =
      r.entryAfter (ops ++ [op]) service := by
  rw [Registry.entryAfter_concat, h, f.entries]
  rfl

/-- Whatever the operation and the clone it goes through, the session goes on to tell the
operations. -/
theorem perform (f : Follows store r ops w) (op : RegistryOp) :
    Follows store r (ops ++ [op]) (w.perform op).2 := by
  cases op with
  | register via service policy =>
      rw [RegistrySession.perform, f.ref]
      exact f.registerThrough rfl fun _ => rfl
  | remove via service =>
      rw [RegistrySession.perform, f.ref]
      exact f.remove rfl fun _ => rfl
  | lookup via service =>
      exact { f with
        entries := f.entries_concat fun _ => rfl
        keeps := f.keeps.concat_of_not rfl }
  | hold via service =>
      refine { f with entries := f.entries_concat fun _ => rfl, keeps := ?_ }
      simpa only [RegistrySession.perform, f.policyFor] using f.keeps.concat_hold
  | clone via =>
      refine { f with
        clones := fun c hc => ?_
        entries := f.entries_concat fun _ => rfl
        keeps := f.keeps.concat_of_not rfl }
      rcases List.mem_append.mp hc with old | new
      · exact f.clones c old
      · rw [List.mem_singleton.mp new, RegistryRef.clone, f.ref]
  | registerDropped via service policy =>
      rw [RegistrySession.perform, f.ref, RegistryRef.clone]
      exact f.registerThrough rfl fun _ => rfl

end Follows

/-! ### Any number of operations -/

/-- So are operations of any number. -/
theorem performAll_follows : Follows store r ops ((start store r).performAll ops) := by
  -- The entries are told by the last operations, so the induction is on the end of the list.
  induction ops using List.reverseRecOn with
  | nil => exact .start
  | append_singleton ops op ih =>
      rw [performAll_concat]
      exact ih.perform op

/-- A session of a registry is one finite map with a fallback, seen alike through every clone. -/
structure RefinesMap (store : RegistryStore) (r : Registry) (ops : List RegistryOp)
    (w : RegistrySession) : Prop where
  policyFor : ∀ via service, (w.registry via).policyFor service = r.resolvedAfter ops service
  ascending : ∀ via, (w.registry via).services.Pairwise (· < ·)
  mem_services : ∀ via service,
    service ∈ (w.registry via).services ↔ (r.entryAfter ops service).isSome = true
  lookup : ∀ via service,
    (w.perform (.lookup via service)).1 = .resolved (r.resolvedAfter ops service)
  remove : ∀ via service,
    (w.perform (.remove via service)).1 = .removed (r.entryAfter ops service).isSome
  removed : ∀ via seen service,
    ((w.perform (.remove via service)).2.registry seen).policyFor service = r.fallback
  /-- What an operation does not edit resolves as before. -/
  untouched : ∀ op seen service, op.edit? service = none →
    ((w.perform op).2.registry seen).policyFor service = (w.registry seen).policyFor service
  /-- A policy that was kept is the one that the name resolved to then. -/
  kept : ∀ before via service after, ops = before ++ .hold via service :: after →
    w.held[before.countP RegistryOp.isHold]? = some (r.resolvedAfter before service)
  /-- A line is logged for a registration where the name has an entry. -/
  replaced : ∀ op service, op.registered? = some service →
    (r.entryAfter ops service).isSome = true →
    (w.perform op).2.lines = w.lines ++ [Registry.replacedLine service]
  /-- Nothing else is logged. -/
  silent : ∀ op, (∀ service, op.registered? = some service → r.entryAfter ops service = none) →
    (w.perform op).2.lines = w.lines
  /-- The registries that were there before are left alone. -/
  others : ∀ other : RegistryRef, other.place < store.maps.length →
    w.store.read other = store.read other

namespace Follows

theorem removed {via seen : Nat} {service : String} (f : Follows store r ops w) :
    ((w.perform (.remove via service)).2.registry seen).policyFor service = r.fallback := by
  rw [(f.perform _).policyFor, Registry.resolvedAfter, Registry.entryAfter_concat]
  simp [RegistryOp.edit?]

/-- An operation leaves the names alone that it does not touch. -/
theorem untouched {seen : Nat} {service : String} (f : Follows store r ops w)
    (h : op.edit? service = none) :
    ((w.perform op).2.registry seen).policyFor service = (w.registry seen).policyFor service := by
  rw [(f.perform op).policyFor, f.policyFor, Registry.resolvedAfter, Registry.entryAfter_concat, h]
  rfl

/-- The lines of one operation. -/
theorem perform_lines (f : Follows store r ops w) (op : RegistryOp) :
    (w.perform op).2.lines = w.lines ++ (op.registered?.elim [] fun service =>
      if (r.entryAfter ops service).isSome then [Registry.replacedLine service] else []) := by
  have logged (service : String) : (w.store.read (store.create r).1).replacementLog service =
      if (r.entryAfter ops service).isSome then [Registry.replacedLine service] else [] := by
    rw [Registry.replacementLog, OrderedMap.contains, f.entries]
  cases op with
  | register via service policy =>
      rw [RegistrySession.perform, f.ref]
      exact congrArg (w.lines ++ ·) (logged service)
  | registerDropped via service policy =>
      rw [RegistrySession.perform, f.ref]
      exact congrArg (w.lines ++ ·) (logged service)
  | remove | lookup | hold | clone => exact (List.append_nil _).symm

theorem refinesMap (f : Follows store r ops w) : RefinesMap store r ops w where
  policyFor := f.policyFor
  ascending via := OrderedMap.keys_ascending _
  mem_services via service := by
    rw [← f.contains via service]
    exact OrderedMap.mem_keys_iff
  lookup via service := congrArg RegistryAnswer.resolved (f.policyFor via service)
  remove via service := congrArg RegistryAnswer.removed (f.contains via service)
  removed _ _ _ := f.removed
  untouched _ _ _ := f.untouched
  kept := f.keeps.kept
  replaced op service registered entry := by
    rw [f.perform_lines, registered]
    simp [entry]
  silent op silent := by
    rw [f.perform_lines]
    cases registered : op.registered? with
    | none => simp
    | some service => simp [silent service registered]
  others := f.others

end Follows

/-- **However a registry is cloned and through whichever clones it is used, it is one finite map.**
This holds after any operations on any registry, empty or filled. -/
theorem performAll_refinesMap (store : RegistryStore) (r : Registry) (ops : List RegistryOp) :
    RefinesMap store r ops ((start store r).performAll ops) :=
  performAll_follows.refinesMap

end RegistrySession

end Failover
