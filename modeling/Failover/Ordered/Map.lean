import Failover.Ordered.Insertion

/-!
# Ordered — maps

A finite map with linearly ordered keys, kept as its entries in strictly ascending order of the
keys.  The entries are determined by the look-ups, so maps that answer alike are equal as values.

* `get?_insert`, `get?_erase`: what the two updates change, and that they change nothing else.
* `mem_keys_iff`: a key is listed exactly when a look-up finds it.
* `ofList_entries`: a map is built from the list of its own entries.
-/

namespace Failover

/-- A finite map, kept as its entries in strictly ascending order of the keys. -/
@[ext]
structure OrderedMap (κ : Type) [LT κ] (ν : Type) where
  entries : List (κ × ν)
  ascending : (entries.map Prod.fst).Pairwise (· < ·)

namespace OrderedMap

/-! ### Look-up among entries -/

section

variable {κ ν : Type} [DecidableEq κ] {k k' : κ} {v : ν} {l : List (κ × ν)}

theorem lookup_cons_eq_ite :
    List.lookup k ((k', v) :: l) = if k = k' then some v else l.lookup k := by
  by_cases h : k = k'
  · rw [if_pos h, h, List.lookup_cons_self]
  · rw [if_neg h, List.lookup_cons, beq_false_of_ne h]

theorem isSome_lookup_iff : (l.lookup k).isSome = true ↔ k ∈ l.map Prod.fst := by
  rw [List.lookup_isSome_iff, List.mem_map]
  exact exists_congr fun e => and_congr_right fun _ => beq_iff_eq.trans eq_comm

/-- Without the entries under a key all others are found as before. -/
theorem lookup_filter :
    (l.filter (fun e => e.1 ≠ k)).lookup k' = if k' = k then none else l.lookup k' := by
  induction l with
  | nil => simp
  | cons e l ih =>
      obtain ⟨a, v⟩ := e
      by_cases hak : a = k
      · rw [List.filter_cons_of_neg (by simp [hak]), ih, lookup_cons_eq_ite, hak]
        by_cases hk : k' = k
        · rw [if_pos hk, if_pos hk]
        · rw [if_neg hk, if_neg hk, if_neg hk]
      · rw [List.filter_cons_of_pos (by simp [hak]), lookup_cons_eq_ite, lookup_cons_eq_ite, ih]
        by_cases ha : k' = a
        · rw [if_pos ha, if_pos ha, if_neg (ha ▸ hak)]
        · rw [if_neg ha, if_neg ha]

end

/-! ### Keys and values -/

variable {κ ν : Type} [LT κ]

instance [DecidableEq κ] [DecidableEq ν] : DecidableEq (OrderedMap κ ν) := fun m n =>
  decidable_of_iff (m.entries = n.entries) OrderedMap.ext_iff.symm

/-- The map without entries. -/
def empty : OrderedMap κ ν := ⟨[], List.pairwise_map.mpr .nil⟩

instance : Inhabited (OrderedMap κ ν) := ⟨empty⟩

/-- The keys, ascending. -/
def keys (m : OrderedMap κ ν) : List κ := m.entries.map Prod.fst

/-- The values, in the order of their keys. -/
def values (m : OrderedMap κ ν) : List ν := m.entries.map Prod.snd

theorem keys_ascending (m : OrderedMap κ ν) : m.keys.Pairwise (· < ·) := m.ascending

/-! ### Look-up -/

section

variable [DecidableEq κ]

/-- The value under `k`, if there is one. -/
def get? (m : OrderedMap κ ν) (k : κ) : Option ν := m.entries.lookup k

/-- Whether there is a value under `k`. -/
def contains (m : OrderedMap κ ν) (k : κ) : Bool := (m.get? k).isSome

@[simp] theorem get?_empty (k : κ) : (empty : OrderedMap κ ν).get? k = none := rfl

/-- A key is listed exactly if a look-up finds it. -/
theorem mem_keys_iff {m : OrderedMap κ ν} {k : κ} : k ∈ m.keys ↔ m.contains k = true :=
  isSome_lookup_iff.symm

/-! ### Erasure -/

/-- The map without the entry under `k`. -/
def erase (m : OrderedMap κ ν) (k : κ) : OrderedMap κ ν :=
  ⟨m.entries.filter (fun e => e.1 ≠ k),
    m.ascending.sublist (List.filter_sublist.map Prod.fst)⟩

/-- An erasure changes what stands under its own key and under no other. -/
@[simp] theorem get?_erase {m : OrderedMap κ ν} {k k' : κ} :
    (m.erase k).get? k' = if k' = k then none else m.get? k' :=
  lookup_filter

end

/-! ### Insertion -/

variable [LE κ] [DecidableLT κ] [Std.IsLinearOrder κ] [Std.LawfulOrderLT κ]

/-- The map with `v` under `k`; a value that was there is replaced. -/
def insert (m : OrderedMap κ ν) (k : κ) (v : ν) : OrderedMap κ ν :=
  ⟨insertByKey Prod.fst (k, v) m.entries,
    List.pairwise_map.mpr (ascending_insertByKey (List.pairwise_map.mp m.ascending))⟩

/-- With an entry put in its place all others are found as before. -/
theorem lookup_insertByKey [DecidableEq κ] {k k' : κ} {v : ν} {l : List (κ × ν)} :
    (insertByKey Prod.fst (k, v) l).lookup k' = if k' = k then some v else l.lookup k' := by
  induction l with
  | nil => exact lookup_cons_eq_ite
  | cons e l ih =>
      obtain ⟨a, w⟩ := e
      unfold insertByKey
      split
      · exact lookup_cons_eq_ite
      · rename_i notLess
        split
        · rename_i greater
          rw [lookup_cons_eq_ite, lookup_cons_eq_ite, ih]
          by_cases ha : k' = a
          · have other : k' ≠ k := ha ▸ Std.ne_of_lt greater
            rw [if_pos ha, if_pos ha, if_neg other]
          · rw [if_neg ha, if_neg ha]
        · rename_i notGreater
          obtain rfl : k = a := Std.le_antisymm (Std.not_lt.mp notGreater) (Std.not_lt.mp notLess)
          rw [lookup_cons_eq_ite, lookup_cons_eq_ite]
          by_cases hk : k' = k
          · rw [if_pos hk, if_pos hk]
          · rw [if_neg hk, if_neg hk, if_neg hk]

/-- An insertion changes what stands under its own key and under no other. -/
@[simp] theorem get?_insert [DecidableEq κ] {m : OrderedMap κ ν} {k k' : κ} {v : ν} :
    (m.insert k v).get? k' = if k' = k then some v else m.get? k' :=
  lookup_insertByKey

@[simp] theorem contains_insert [DecidableEq κ] {m : OrderedMap κ ν} {k k' : κ} {v : ν} :
    (m.insert k v).contains k' = (decide (k' = k) || m.contains k') := by
  by_cases h : k' = k <;> simp [contains, h]

/-- The map of a list of entries; the last entry under a key stands. -/
def ofList (l : List (κ × ν)) : OrderedMap κ ν := l.foldl (fun m e => m.insert e.1 e.2) empty

/-- A map is the map of its entries. -/
@[simp] theorem ofList_entries (m : OrderedMap κ ν) : ofList m.entries = m := by
  have items : m.entries.foldl (fun l e => insertByKey Prod.fst e l) [] = m.entries :=
    foldl_insertByKey (List.pairwise_map.mp m.ascending)
  exact OrderedMap.ext ((List.foldl_hom entries fun _ _ => rfl).symm.trans items)

end OrderedMap

end Failover
