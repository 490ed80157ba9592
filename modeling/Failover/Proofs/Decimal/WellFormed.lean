import Failover.Decimal.Shortest

/-!
# Decimal — numerals that can be read

A reader takes a numeral if there is a digit wherever digits are due, and no zero in front of other
whole digits.  Natural numbers and doubles are written that way.

* `Numeral.WellFormed.ofNat`, `Numeral.toNat?_ofNat`: natural numbers, which read back as
  themselves.
* `Decimal.shortest_digits_ne_zero`: the shortest digits of a double do not start with a zero.
* `Numeral.WellFormed.ofFloat`: doubles.
-/

namespace Failover

/-! ### Digits -/

/-- One digit or more. -/
structure IsDigits (ds : List Char) : Prop where
  nonempty : ds ≠ []
  digit : ∀ c ∈ ds, c.isDigit = true

namespace IsDigits

variable {as bs : List Char} {n : Nat}

/-- The digits of a natural number. -/
theorem toDigits : IsDigits (Nat.toDigits 10 n) :=
  ⟨Nat.toDigits_ne_nil, fun _ => Nat.isDigit_of_mem_toDigits (by decide) (by decide)⟩

theorem zero : IsDigits ['0'] where
  nonempty := List.cons_ne_nil _ _
  digit c hc := by
    rw [List.mem_singleton.mp hc]
    rfl

theorem append (ha : ∀ c ∈ as, c.isDigit = true) (hb : ∀ c ∈ bs, c.isDigit = true)
    (h : as ++ bs ≠ []) : IsDigits (as ++ bs) :=
  ⟨h, fun c hc => (List.mem_append.mp hc).elim (ha c) (hb c)⟩

theorem head?_append (h : IsDigits as) : (as ++ bs).head? = as.head? := by
  obtain ⟨c, cs, rfl⟩ := List.exists_cons_of_ne_nil h.nonempty
  rfl

theorem take (h : IsDigits as) (hn : 0 < n) : IsDigits (as.take n) where
  nonempty := by
    rw [Ne, List.take_eq_nil_iff]
    rintro (h0 | h0)
    · exact Nat.ne_of_gt hn h0
    · exact h.nonempty h0
  digit c hc := h.digit c (List.mem_of_mem_take hc)

theorem drop (h : IsDigits as) (hn : n < as.length) : IsDigits (as.drop n) where
  nonempty := by
    rw [Ne, List.drop_eq_nil_iff]
    exact Nat.not_le_of_lt hn
  digit c hc := h.digit c (List.mem_of_mem_drop hc)

end IsDigits

theorem isDigit_of_mem_zeros {n : Nat} : ∀ c ∈ List.replicate n '0', c.isDigit = true := by
  intro c hc
  rw [List.eq_of_mem_replicate hc]
  rfl

/-- Only zero is written with a zero in front. -/
theorem head?_toDigits {n : Nat} (h : n ≠ 0) : (Nat.toDigits 10 n).head? ≠ some '0' := by
  induction n using Nat.base_induction 10 (by decide) with
  | single m hm =>
      have all : ∀ k : Fin 10, k.val ≠ 0 → k.val.digitChar ≠ '0' := by decide
      rw [Nat.toDigits_of_lt_base hm]
      exact fun h' => all ⟨m, hm⟩ h (Option.some.inj h')
  | digit m k hk hm ih =>
      rw [← Nat.toDigits_append_toDigits (by decide) hm hk, IsDigits.toDigits.head?_append]
      exact ih (Nat.ne_of_gt hm)

/-! ### Numerals -/

namespace Numeral

/-- A numeral that can be read. -/
structure WellFormed (n : Numeral) : Prop where
  whole : IsDigits n.whole
  /-- No zero stands in front of another digit. -/
  leading : n.whole.head? = some '0' → n.whole = ['0']
  fraction : ∀ ds, n.fraction = some ds → IsDigits ds
  exponent : ∀ e, n.exponent = some e → IsDigits e.digits

/-- Natural numbers can be read. -/
theorem WellFormed.ofNat {n : Nat} : (ofNat n).WellFormed where
  whole := .toDigits
  leading h := by
    by_cases h0 : n = 0
    · rw [h0]
      rfl
    · exact absurd h (head?_toDigits h0)
  fraction _ h := nomatch h
  exponent _ h := nomatch h

/-- They read back as themselves. -/
@[simp] theorem toNat?_ofNat {n : Nat} : (ofNat n).toNat? = some n :=
  congrArg some Nat.ofDigitChars_ten_toDigits

end Numeral

namespace Decimal

/-! ### Doubles -/

/-- A point of a grid that rounds to a double is not zero. -/
theorem Rounding.onGrid_ne_zero {r : Rounding} {tie : Tie} {e : Int} {n : Nat}
    (h : r.onGrid tie e = some n) : n ≠ 0 := by
  unfold onGrid at h
  dsimp only at h
  split at h
  · rename_i fits _
    split at h
    · cases h
      exact Nat.succ_ne_zero _
    · cases h
      exact Nat.ne_of_gt (of_decide_eq_true (Bool.and_eq_true_iff.mp fits).2)
  · rename_i fits _
    cases h
    exact Nat.ne_of_gt (of_decide_eq_true (Bool.and_eq_true_iff.mp fits).2)
  · cases h
    exact Nat.succ_ne_zero _
  · cases h

/-- Cutting zeros off leaves a digit other than zero. -/
theorem trim_digits_ne_zero {fuel : Nat} {d : Decimal} (h : d.digits ≠ 0) :
    (trim fuel d).digits ≠ 0 := by
  induction fuel generalizing d with
  | zero => exact h
  | succ fuel ih =>
      rw [trim]
      split
      · rename_i hd
        refine ih ?_
        dsimp only
        omega
      · exact h

/-- The search for short digits does not end with zero. -/
theorem search_digits_ne_zero {r : Rounding} {tie : Tie} {count : Nat} {e : Int} :
    (search r tie count e).digits ≠ 0 := by
  induction count generalizing e with
  | zero =>
      rw [search]
      cases h : r.onGrid tie e with
      | none => exact Nat.one_ne_zero
      | some n => exact Rounding.onGrid_ne_zero h
  | succ count ih =>
      rw [search]
      split
      · rename_i n h
        exact trim_digits_ne_zero (Rounding.onGrid_ne_zero h)
      · exact ih

/-- The shortest digits of a double other than zero are not zero. -/
theorem shortest_digits_ne_zero {tie : Tie} {exponent fraction : Nat} :
    (shortest tie exponent fraction).digits ≠ 0 :=
  search_digits_ne_zero

/-- Decimals can be read in every format. -/
theorem numeral_wellFormed {format : Format} {negative : Bool} {d : Decimal} (h : d.digits ≠ 0) :
    (numeral format negative d).WellFormed := by
  have head := head?_toDigits h
  have digits : IsDigits (Nat.toDigits 10 d.digits) := .toDigits
  have pos : 0 < (Nat.toDigits 10 d.digits).length := Nat.length_toDigits_pos
  unfold numeral
  dsimp only
  generalize Nat.toDigits 10 d.digits = ds at *
  -- What is taken from the front of the digits has no zero in front either.
  have front {k : Nat} : (ds.take k).head? ≠ some '0' := by
    rw [List.head?_take]
    split
    · exact nofun
    · exact head
  split
  · split
    · refine ⟨.append digits.digit isDigit_of_mem_zeros ?_, ?_, ?_, nofun⟩
      · simp [digits.nonempty]
      · rw [digits.head?_append]
        exact fun h => absurd h head
      · rintro _ ⟨⟩
        exact .zero
    · split
      · refine ⟨digits.take (by omega), fun h => absurd h front, ?_, nofun⟩
        rintro _ ⟨⟩
        exact digits.drop (by omega)
      · refine ⟨.zero, fun _ => rfl, ?_, nofun⟩
        rintro _ ⟨⟩
        exact .append isDigit_of_mem_zeros digits.digit (by simp [digits.nonempty])
  · refine ⟨digits.take Nat.one_pos, fun h => absurd h front, fun fs hf => ?_, ?_⟩
    · dsimp only at hf
      split at hf
      · cases hf
      · cases hf
        exact digits.drop (by omega)
    · rintro _ ⟨⟩
      exact .toDigits

end Decimal

/-- Doubles can be read in every format. -/
theorem Numeral.WellFormed.ofFloat {format : Decimal.Format} {x : Float} :
    (ofFloat format x).WellFormed := by
  unfold Numeral.ofFloat
  dsimp only
  split
  · refine ⟨.zero, fun _ => rfl, ?_, nofun⟩
    rintro _ ⟨⟩
    exact .zero
  · exact Decimal.numeral_wellFormed Decimal.shortest_digits_ne_zero

end Failover
