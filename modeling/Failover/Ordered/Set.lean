import Failover.Ordered.Insertion

/-!
# Ordered — sets

A finite set of a linearly ordered type, kept as the strictly ascending list of its members.  The
list is determined by the members, so two sets with the same members are equal as values.

* `mem_insert`: inserting adds exactly one member.
* `mem_ofList`: a set built from a list has the list's members, whatever their order and number.
* `ofList_toList`: a set is built from the list of its own members.
-/

namespace Failover

/-- A finite set, kept as its members in strictly ascending order. -/
@[ext]
structure OrderedSet (α : Type) [LT α] where
  toList : List α
  ascending : toList.Pairwise (· < ·)

namespace OrderedSet

variable {α : Type} [LT α]

instance [DecidableEq α] : DecidableEq (OrderedSet α) := fun s t =>
  decidable_of_iff (s.toList = t.toList) OrderedSet.ext_iff.symm

/-- The set without members. -/
def empty : OrderedSet α := ⟨[], .nil⟩

instance : Inhabited (OrderedSet α) := ⟨empty⟩

instance : Membership α (OrderedSet α) := ⟨fun s a => a ∈ s.toList⟩

/-- Membership as a test. -/
def contains [DecidableEq α] (s : OrderedSet α) (a : α) : Bool := decide (a ∈ s.toList)

theorem mem_def {s : OrderedSet α} {a : α} : a ∈ s ↔ a ∈ s.toList := Iff.rfl

@[simp] theorem contains_iff [DecidableEq α] {s : OrderedSet α} {a : α} :
    s.contains a = true ↔ a ∈ s := by
  simp [contains, mem_def]

/-! ### Insertion -/

variable [LE α] [DecidableLT α] [Std.IsLinearOrder α] [Std.LawfulOrderLT α]

/-- The set with `a` added. -/
def insert (s : OrderedSet α) (a : α) : OrderedSet α :=
  ⟨insertByKey id a s.toList, ascending_insertByKey s.ascending⟩

/-- The set of a list's elements. -/
def ofList (l : List α) : OrderedSet α := l.foldl insert empty

/-- An insertion adds one member. -/
@[simp] theorem mem_insert {s : OrderedSet α} {a x : α} : x ∈ s.insert a ↔ x = a ∨ x ∈ s := by
  constructor
  · exact mem_insertByKey
  · rintro (rfl | h)
    · exact mem_insertByKey_self
    · have kept : id x = id a ∨ x ∈ insertByKey id a s.toList := mem_or_key_eq h
      rcases kept with rfl | h
      · exact mem_insertByKey_self
      · exact h

theorem mem_foldl_insert {l : List α} {s : OrderedSet α} {x : α} :
    x ∈ l.foldl insert s ↔ x ∈ l ∨ x ∈ s := by
  induction l generalizing s with
  | nil => simp
  | cons a l ih =>
    rw [List.foldl_cons, ih, mem_insert, List.mem_cons]
    constructor
    · rintro (h | h | h) <;> simp [h]
    · rintro ((h | h) | h) <;> simp [h]

/-- The set of a list has its elements for members. -/
@[simp] theorem mem_ofList {l : List α} {x : α} : x ∈ ofList l ↔ x ∈ l := by
  rw [ofList, mem_foldl_insert]
  simp [mem_def, empty]

/-- A set is the set of its members. -/
@[simp] theorem ofList_toList (s : OrderedSet α) : ofList s.toList = s := by
  have items : s.toList.foldl (fun l a => insertByKey id a l) [] = s.toList :=
    foldl_insertByKey s.ascending
  exact OrderedSet.ext ((List.foldl_hom toList fun _ _ => rfl).symm.trans items)

end OrderedSet

end Failover
