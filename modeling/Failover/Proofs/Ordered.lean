import Failover.Ordered.Map
import Failover.Ordered.Set
import Mathlib.Data.List.Sort

/-!
# Ordered — what sets and maps are determined by

A set is its members and a map is its look-ups.  So a set does not depend on the order and number of
the items that it is made of, and a map does not depend on the order of its entries if no two have
the same key.

* `OrderedSet.ext_mem`, `OrderedMap.ext_get?`: when two sets or two maps are equal.
* `OrderedSet.ofList_congr`, `OrderedMap.ofList_perm`: what they are made of.
-/

namespace Failover

/-! ### Sets -/

namespace OrderedSet

variable {α : Type} [LT α] [LE α] [Std.IsLinearOrder α] [Std.LawfulOrderLT α]

/-- Sets with the same members are equal. -/
theorem ext_mem {s t : OrderedSet α} (h : ∀ a, a ∈ s ↔ a ∈ t) : s = t := by
  have irrefl : Std.Irrefl (α := α) (· < ·) := ⟨fun _ => Std.lt_irrefl⟩
  exact OrderedSet.ext (s.ascending.eq_of_mem_iff t.ascending h)

/-- The set of a list depends on its members only. -/
theorem ofList_congr [DecidableLT α] {l l' : List α} (h : ∀ a, a ∈ l ↔ a ∈ l') :
    ofList l = ofList l' :=
  ext_mem fun a => by rw [mem_ofList, mem_ofList, h a]

/-- What passes a test first in a set is the smallest member that passes it. -/
theorem find?_eq_some_iff {s : OrderedSet α} {p : α → Bool} {a : α} :
    s.toList.find? p = some a ↔ a ∈ s ∧ p a = true ∧ ∀ b ∈ s, p b = true → a ≤ b := by
  rw [List.find?_eq_some_iff_append]
  constructor
  · rintro ⟨passes, before, after, split, fail⟩
    have ascending := s.ascending
    rw [split, List.pairwise_append, List.pairwise_cons] at ascending
    refine ⟨by simp [mem_def, split], passes, fun b hb hp => ?_⟩
    rw [mem_def, split, List.mem_append, List.mem_cons] at hb
    rcases hb with hb | rfl | hb
    · have fails := fail b hb
      rw [hp] at fails
      cases fails
    · exact Std.le_refl b
    · exact Std.le_of_lt (ascending.2.1.1 b hb)
  · rintro ⟨mem, passes, smallest⟩
    obtain ⟨before, after, split⟩ := List.append_of_mem mem
    have ascending := s.ascending
    rw [split, List.pairwise_append] at ascending
    refine ⟨passes, before, after, split, fun b hb => ?_⟩
    have smaller : b < a := ascending.2.2 b hb a List.mem_cons_self
    have fails : ¬ p b = true := fun hp =>
      Std.not_le.mpr smaller (smallest b (by simp [mem_def, split, hb]) hp)
    simpa using fails

end OrderedSet

/-! ### Maps -/

namespace OrderedMap

variable {κ ν : Type} [DecidableEq κ] {k k' : κ} {v v' : ν} {l l' : List (κ × ν)}

/-- What a look-up finds is an entry. -/
theorem mem_of_lookup (h : l.lookup k = some v) : (k, v) ∈ l := by
  obtain ⟨before, after, rfl, -⟩ := List.lookup_eq_some_iff.mp h
  exact List.mem_append_right before List.mem_cons_self

/-- Where no key is repeated every entry is the first under its key. -/
theorem lookup_of_mem (distinct : (l.map Prod.fst).Nodup) (h : (k, v) ∈ l) :
    l.lookup k = some v := by
  induction l with
  | nil => cases h
  | cons e l ih =>
      obtain ⟨k', v'⟩ := e
      obtain ⟨new, distinct⟩ := List.nodup_cons.mp distinct
      rcases List.mem_cons.mp h with h | h
      · obtain ⟨rfl, rfl⟩ := Prod.mk.inj h
        rw [lookup_cons_eq_ite, if_pos rfl]
      · have other : k ≠ k' := fun hk => new (List.mem_map.mpr ⟨(k, v), h, hk⟩)
        rw [lookup_cons_eq_ite, if_neg other, ih distinct h]

variable [LT κ] {m n : OrderedMap κ ν}

theorem mem_values_of_get? (h : m.get? k = some v) : v ∈ m.values :=
  List.mem_map_of_mem (f := Prod.snd) (mem_of_lookup h)

variable [LE κ] [Std.LawfulOrderLT κ]

/-- The entries are what look-ups find. -/
theorem mem_entries_iff : (k, v) ∈ m.entries ↔ m.get? k = some v :=
  ⟨lookup_of_mem (m.ascending.imp Std.ne_of_lt), mem_of_lookup⟩

/-- Maps that answer alike are equal. -/
theorem ext_get? (h : ∀ k, m.get? k = n.get? k) : m = n := by
  have irrefl : Std.Irrefl fun e f : κ × ν => e.1 < f.1 := ⟨fun _ => Std.lt_irrefl⟩
  have ascending (m : OrderedMap κ ν) : m.entries.Pairwise fun e f => e.1 < f.1 :=
    List.pairwise_map.mp m.ascending
  refine OrderedMap.ext ((ascending m).eq_of_mem_iff (ascending n) fun e => ?_)
  rw [mem_entries_iff, mem_entries_iff, h]

variable [Std.IsLinearOrder κ] [DecidableLT κ]

/-- Entries under different keys can be made in either order. -/
theorem insert_comm (h : k ≠ k') : (m.insert k v).insert k' v' = (m.insert k' v').insert k v := by
  refine ext_get? fun x => ?_
  simp only [get?_insert]
  by_cases hx : x = k
  · rw [if_neg (hx ▸ h), if_pos hx, if_pos hx]
  · rw [if_neg hx, if_neg hx]

/-- The map of a list does not depend on its order if no key is repeated. -/
theorem ofList_perm (perm : l.Perm l') (distinct : (l.map Prod.fst).Nodup) :
    ofList l = ofList l' := by
  refine perm.foldl_eq' (fun e he f hf m => ?_) empty
  by_cases hk : e.1 = f.1
  · have same := lookup_of_mem distinct he
    rw [hk, lookup_of_mem distinct hf] at same
    rw [Prod.ext hk (Option.some.inj same).symm]
  · exact insert_comm hk

end OrderedMap

end Failover
