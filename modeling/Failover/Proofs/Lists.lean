/-!
# Lists — where they are split

Histories are lists that grow at their end.  What happened somewhere in a history is a way to split
it, `before ++ x :: after`.  Texts are lists that are read from their start, where a test says how
far a part of them goes.

* `split_concat`: the splits of a history with one more entry.
* `span_append`: a part of a text and what follows it.
-/

namespace Failover

/-- An entry of a history that has grown by one is the new one, or it was there before. -/
theorem split_concat {α : Type} {l before after : List α} {x y : α}
    (split : l ++ [y] = before ++ x :: after) :
    (before = l ∧ x = y ∧ after = []) ∨
      ∃ between, after = between ++ [y] ∧ l = before ++ x :: between := by
  rcases List.eq_nil_or_concat after with rfl | ⟨between, z, rfl⟩
  · obtain ⟨rfl, hy⟩ := List.append_inj' split rfl
    cases hy
    exact .inl ⟨rfl, rfl, rfl⟩
  · rw [List.concat_eq_append, ← List.cons_append, ← List.append_assoc] at split
    obtain ⟨rfl, hy⟩ := List.append_inj' split rfl
    cases hy
    exact .inr ⟨between, List.concat_eq_append, rfl⟩

/-- Where a test fails right behind what passes it, that much is taken and the rest is left. -/
theorem span_append {α : Type} {p : α → Bool} {part rest : List α} (passes : ∀ c ∈ part, p c = true)
    (stop : ∀ c ∈ rest.head?, p c = false) :
    (part ++ rest).takeWhile p = part ∧ (part ++ rest).dropWhile p = rest := by
  rw [List.takeWhile_append_of_pos passes, List.dropWhile_append_of_pos passes]
  cases rest with
  | nil => exact ⟨List.append_nil part, rfl⟩
  | cons c rest =>
      have fails : ¬ p c = true := by simp [stop c rfl]
      rw [List.takeWhile_cons_of_neg fails, List.dropWhile_cons_of_neg fails, List.append_nil]
      exact ⟨rfl, rfl⟩

end Failover
