import Failover.Policy.Registry

/-!
# Policies — registries that share their entries

A registry can be cloned, and the clones look into one map: what is registered or removed through
one of them is seen through all.  Each of them carries the fallback.

* `RegistryRef`: a registry as it is handed on.
* `RegistryStore`: the maps that such references point to.
-/

namespace Failover

/-- A registry or a clone of one: where its map is, and the fallback. -/
structure RegistryRef where
  place : Nat
  fallback : Policy

/-- A clone points to the same map. -/
def RegistryRef.clone (r : RegistryRef) : RegistryRef := r

/-- The maps that registries point to, by place. -/
structure RegistryStore where
  maps : List (OrderedMap String Policy)

namespace RegistryStore

/-- The store in which no registry has been created. -/
def empty : RegistryStore := ⟨[]⟩

instance : Inhabited RegistryStore := ⟨empty⟩

/-- Keeps the entries of a registry in a place of their own. -/
def create (s : RegistryStore) (r : Registry) : RegistryRef × RegistryStore :=
  (⟨s.maps.length, r.fallback⟩, ⟨s.maps ++ [r.policies]⟩)

/-- The registry that a reference stands for at this moment. -/
def read (s : RegistryStore) (r : RegistryRef) : Registry :=
  ⟨(s.maps[r.place]?).getD .empty, r.fallback⟩

/-- Puts a whole new map in the place of the old one. -/
def publish (s : RegistryStore) (r : RegistryRef) (policies : OrderedMap String Policy) :
    RegistryStore :=
  ⟨s.maps.set r.place policies⟩

/-- Registers a policy; a line is logged where it replaces another. -/
def register (s : RegistryStore) (r : RegistryRef) (service : String) (policy : Policy) :
    List LogLine × RegistryStore :=
  ((s.read r).replacementLog service, s.publish r ((s.read r).register service policy).policies)

/-- Takes an entry away, and says whether there was one. -/
def remove (s : RegistryStore) (r : RegistryRef) (service : String) : Bool × RegistryStore :=
  ((s.read r).contains service, s.publish r ((s.read r).remove service).policies)

/-! ### Reading what was published -/

variable {s : RegistryStore} {r r' : RegistryRef} {policies : OrderedMap String Policy}

/-- What is published through a reference is read through every reference to its place. -/
theorem read_publish_of_eq (bound : r.place < s.maps.length) (same : r'.place = r.place) :
    (s.publish r policies).read r' = ⟨policies, r'.fallback⟩ := by
  simp [read, publish, same, bound]

/-- Registries in other places are left as they are. -/
theorem read_publish_of_ne (other : r'.place ≠ r.place) :
    (s.publish r policies).read r' = s.read r' := by
  simp [read, publish, List.getElem?_set_ne other.symm]

@[simp] theorem length_maps_publish : (s.publish r policies).maps.length = s.maps.length :=
  List.length_set

end RegistryStore

end Failover
