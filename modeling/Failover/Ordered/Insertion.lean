/-!
# Ordered — putting items in their place

Sets and maps are lists whose keys ascend strictly; the key of a member is the member itself, that
of an entry is what it stands under.  An item goes in front of the first with a larger key, and it
takes the place of one with its own key.

* `mem_insertByKey`, `mem_or_key_eq`: which items are in the list afterwards.
* `ascending_insertByKey`: the keys go on ascending.
* `foldl_insertByKey`: a list in order is put together again from its items.
-/

namespace Failover

variable {α κ : Type} [LT κ] [DecidableLT κ] {key : α → κ} {a x : α} {l l' : List α}

/-- Puts an item in its place, in the stead of an item with the same key. -/
def insertByKey (key : α → κ) (a : α) : List α → List α
  | [] => [a]
  | b :: l =>
    if key a < key b then a :: b :: l
    else if key b < key a then b :: insertByKey key a l
    else a :: l

theorem mem_insertByKey_self : a ∈ insertByKey key a l := by
  induction l with
  | nil => exact List.mem_singleton_self a
  | cons b l ih =>
      unfold insertByKey
      split
      · exact List.mem_cons_self
      · split
        · exact List.mem_cons_of_mem b ih
        · exact List.mem_cons_self

/-- What is in the list afterwards is the new item, or it was there before. -/
theorem mem_insertByKey (h : x ∈ insertByKey key a l) : x = a ∨ x ∈ l := by
  induction l with
  | nil => exact .inl (List.mem_singleton.mp h)
  | cons b l ih =>
      unfold insertByKey at h
      split at h
      · exact List.mem_cons.mp h
      · split at h
        · rcases List.mem_cons.mp h with rfl | h
          · exact .inr List.mem_cons_self
          · exact (ih h).imp_right (List.mem_cons_of_mem b)
        · exact (List.mem_cons.mp h).imp_right (List.mem_cons_of_mem b)

variable [LE κ] [Std.IsLinearOrder κ] [Std.LawfulOrderLT κ]

/-- What was there before is there still, unless it has the key of the new item. -/
theorem mem_or_key_eq (h : x ∈ l) : key x = key a ∨ x ∈ insertByKey key a l := by
  induction l with
  | nil => cases h
  | cons b l ih =>
      unfold insertByKey
      split
      · exact .inr (List.mem_cons_of_mem a h)
      · rename_i notLess
        split
        · rcases List.mem_cons.mp h with rfl | h
          · exact .inr List.mem_cons_self
          · exact (ih h).imp_right (List.mem_cons_of_mem b)
        · rename_i notGreater
          rcases List.mem_cons.mp h with rfl | h
          · exact .inl (Std.le_antisymm (Std.not_lt.mp notLess) (Std.not_lt.mp notGreater))
          · exact .inr (List.mem_cons_of_mem a h)

/-- The keys go on ascending. -/
theorem ascending_insertByKey (h : l.Pairwise fun b c => key b < key c) :
    (insertByKey key a l).Pairwise fun b c => key b < key c := by
  induction l with
  | nil => exact List.pairwise_singleton _ a
  | cons b l ih =>
      obtain ⟨hb, hl⟩ := List.pairwise_cons.mp h
      unfold insertByKey
      split
      · rename_i less
        refine List.pairwise_cons.mpr ⟨fun x hx => ?_, h⟩
        rcases List.mem_cons.mp hx with rfl | hx
        · exact less
        · exact Std.lt_trans less (hb x hx)
      · rename_i notLess
        split
        · rename_i greater
          refine List.pairwise_cons.mpr ⟨fun x hx => ?_, ih hl⟩
          rcases mem_insertByKey hx with rfl | hx
          · exact greater
          · exact hb x hx
        · rename_i notGreater
          have same : key a = key b :=
            Std.le_antisymm (Std.not_lt.mp notGreater) (Std.not_lt.mp notLess)
          exact List.pairwise_cons.mpr ⟨fun x hx => same ▸ hb x hx, hl⟩

/-- An item whose key is larger than all others comes behind them. -/
theorem insertByKey_of_lt (h : ∀ b ∈ l, key b < key a) : insertByKey key a l = l ++ [a] := by
  induction l with
  | nil => rfl
  | cons b l ih =>
      have hb : key b < key a := h b List.mem_cons_self
      rw [insertByKey, if_neg (Std.not_lt.mpr (Std.le_of_lt hb)), if_pos hb,
        ih fun x hx => h x (List.mem_cons_of_mem b hx), List.cons_append]

/-- A list in order is put together again from its items. -/
theorem foldl_insertByKey (h : (l ++ l').Pairwise fun b c => key b < key c) :
    l'.foldl (fun l a => insertByKey key a l) l = l ++ l' := by
  induction l' generalizing l with
  | nil => exact (List.append_nil l).symm
  | cons a l' ih =>
      have last : insertByKey key a l = l ++ [a] :=
        insertByKey_of_lt fun b hb => (List.pairwise_append.mp h).2.2 b hb a List.mem_cons_self
      rw [List.foldl_cons, last, ih (by rwa [List.append_assoc]), List.append_assoc,
        List.singleton_append]

end Failover
