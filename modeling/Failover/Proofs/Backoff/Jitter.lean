import Failover.Proofs.Backoff.Growth

/-!
# Backoff — drawing a delay from its window

A delay with jitter is a number of milliseconds drawn from a window by a multiplication of words.
The draw follows the word that it starts from: it never falls short of the exact fraction of the
window that the word stands for, and never goes beyond the fraction of the next word.  So the lowest
and the highest word give the two ends of the window, and a higher word never gives a shorter delay.

* `Words.toNat_product`: the product of two words in two words.
* `Words.drawBetween_eq_offset`: a draw, in the arithmetic of words.
* `Words.drawBetween_near`: a draw between the fractions of two neighbouring words.
* `Backoff.jittered_drawn`: the delays that jitter gives.
-/

namespace Failover

namespace Words

variable {s : Words} {a b w w' : UInt64} {low high : Nat}

/-! ### The arithmetic of words -/

/-- The product of two words, as its high and its low word. -/
def product (a b : UInt64) : UInt64 × UInt64 :=
  let wide := a.toBitVec.setWidth 128 * b.toBitVec.setWidth 128
  (⟨(wide >>> 64).setWidth 64⟩, ⟨wide.setWidth 64⟩)

/-- The product of two words in two halves. -/
theorem toNat_product :
    (product a b).1.toNat = a.toNat * b.toNat / UInt64.size ∧
      (product a b).2.toNat = a.toNat * b.toNat % UInt64.size := by
  have wide : a.toNat * b.toNat < UInt64.size * UInt64.size :=
    Nat.mul_lt_mul'' a.toNat_lt_size b.toNat_lt_size
  have widened (c : UInt64) : (c.toBitVec.setWidth 128).toNat = c.toNat := by
    rw [BitVec.toNat_setWidth, UInt64.toNat_toBitVec]
    exact Nat.mod_eq_of_lt (Nat.lt_trans c.toNat_lt_size (by decide))
  have exact : (a.toBitVec.setWidth 128 * b.toBitVec.setWidth 128).toNat = a.toNat * b.toNat := by
    rw [BitVec.toNat_mul, widened, widened]
    exact Nat.mod_eq_of_lt wide
  constructor
  · have high : a.toNat * b.toNat / UInt64.size < UInt64.size := Nat.div_lt_of_lt_mul wide
    change ((_ : BitVec 128) >>> 64).toNat % 2 ^ 64 = _
    rw [BitVec.toNat_ushiftRight, exact, Nat.shiftRight_eq_div_pow]
    exact Nat.mod_eq_of_lt high
  · change (_ : BitVec 128).toNat % 2 ^ 64 = _
    rw [exact]

/-- A number below `size`: the high word of a product.  If the low word exceeds the negated size,
the high word of a second product is added to it, and an overflow raises the number by one. -/
def offset (s : Words) (size : UInt64) : UInt64 :=
  let (high, low) := product s.head size
  if -size < low then
    let (more, _) := product s.tail.head size
    if low + more < low then high + 1 else high
  else high

/-- Two words overflow exactly if their sum wraps around to less than the first. -/
theorem add_lt_left_iff : a + b < a ↔ UInt64.size ≤ a.toNat + b.toNat := by
  have ha := a.toNat_lt_size
  have hb := b.toNat_lt_size
  rw [UInt64.lt_iff_toNat_lt, UInt64.toNat_add]
  rw [UInt64.size] at *
  omega

/-- **A draw is the low end of its range and an offset.** -/
theorem drawBetween_eq_offset (fits : high - low + 1 < UInt64.size) :
    (s.drawBetween low high).1 = low + (s.offset (high - low + 1).toUInt64).toNat := by
  have hsize : (high - low + 1).toUInt64.toNat = high - low + 1 := UInt64.toNat_ofNat_of_lt' fits
  unfold drawBetween offset
  dsimp only
  generalize (high - low + 1).toUInt64 = size at *
  rw [← hsize]
  obtain ⟨first, rest⟩ := toNat_product (a := s.head) (b := size)
  obtain ⟨second, -⟩ := toNat_product (a := s.tail.head) (b := size)
  have pos : 0 < size.toNat := by rw [hsize]; exact Nat.succ_pos _
  have negated : (-size).toNat = UInt64.size - size.toNat := by
    rw [UInt64.toNat_neg]
    exact Nat.mod_eq_of_lt (by rw [UInt64.size]; omega)
  have biased : -size < (product s.head size).2 ↔
      UInt64.size - size.toNat < s.head.toNat * size.toNat % UInt64.size := by
    rw [UInt64.lt_iff_toNat_lt, negated, rest]
  have carries : (product s.head size).2 + (product s.tail.head size).1 < (product s.head size).2 ↔
      UInt64.size ≤ s.head.toNat * size.toNat % UInt64.size +
        s.tail.head.toNat * size.toNat / UInt64.size := by
    rw [add_lt_left_iff, rest, second]
  obtain ⟨inside, room⟩ := product_bounds s.head.toNat_lt_size pos
  simp only [biased, carries]
  split
  · rename_i large
    have raised : ((product s.head size).1 + 1).toNat =
        s.head.toNat * size.toNat / UInt64.size + 1 := by
      rw [UInt64.toNat_add, first]
      exact Nat.mod_eq_of_lt (Nat.lt_trans (room large) size.toNat_lt_size)
    split
    · rw [raised, Nat.add_assoc]
    · rw [first, Nat.add_zero]
  · rw [first]

/-! ### Draws and fractions -/

/-- **A draw lies between the fractions of its range that its word and the next one stand for.** -/
theorem drawBetween_near (fits : high - low + 1 ≤ UInt64.size) :
    low + s.head.toNat * (high - low + 1) / UInt64.size ≤ (s.drawBetween low high).1 ∧
      (s.drawBetween low high).1 ≤
        low + (s.head.toNat + 1) * (high - low + 1) / UInt64.size := by
  have next : (s.head.toNat + 1) * (high - low + 1) =
      s.head.toNat * (high - low + 1) + (high - low + 1) := Nat.succ_mul _ _
  unfold drawBetween
  dsimp only
  rw [next]
  rw [UInt64.size] at *
  generalize s.head.toNat * (high - low + 1) = product at *
  generalize high - low + 1 = size at *
  split
  · split <;> dsimp only <;> omega
  · dsimp only
    omega

/-- The lowest word draws the low end. -/
theorem drawBetween_zero (ordered : low ≤ high) (fits : high - low + 1 < UInt64.size) :
    ((constant 0).drawBetween low high).1 = low := by
  have above := (drawBetween_near (s := constant 0) (Nat.le_of_lt fits)).2
  have below := (drawBetween_bounds (s := constant 0) ordered).1
  have next : (0 + 1) * (high - low + 1) / UInt64.size = 0 := by
    rw [Nat.zero_add, Nat.one_mul]
    exact Nat.div_eq_of_lt fits
  have head : (constant 0).head.toNat = 0 := rfl
  rw [head, next] at above
  exact Nat.le_antisymm above below

/-- The highest word draws the high end. -/
theorem drawBetween_max (ordered : low ≤ high) (fits : high - low + 1 < UInt64.size) :
    ((constant (-1)).drawBetween low high).1 = high := by
  have below := (drawBetween_near (s := constant (-1)) (Nat.le_of_lt fits)).1
  have above := (drawBetween_bounds (s := constant (-1)) ordered).2
  have head : (constant (-1)).head.toNat = UInt64.size - 1 := rfl
  rw [head] at below
  rw [UInt64.size] at *
  omega

/-- A higher word never draws a lower number. -/
theorem drawBetween_mono (fits : high - low + 1 < UInt64.size) (h : w ≤ w') :
    ((constant w).drawBetween low high).1 ≤ ((constant w').drawBetween low high).1 := by
  rcases UInt64.lt_or_eq_of_le h with less | rfl
  · have above := (drawBetween_near (s := constant w) (Nat.le_of_lt fits)).2
    have below := (drawBetween_near (s := constant w') (Nat.le_of_lt fits)).1
    have next : (w.toNat + 1) * (high - low + 1) / UInt64.size ≤
        w'.toNat * (high - low + 1) / UInt64.size :=
      Nat.div_le_div_right (Nat.mul_le_mul_right _ (UInt64.lt_iff_toNat_lt.mp less))
    exact Nat.le_trans above (Nat.le_trans (Nat.add_le_add_left next low) below)
  · exact Nat.le_refl _

end Words

namespace Backoff

variable {b : Backoff} {retry : Nat} {words : Words}

/-! ### The window -/

/-- The longest delay that jitter may leave: the whole milliseconds of the plain one. -/
def high (b : Backoff) (retry : Nat) : Duration := .ofMillis (b.delay retry).millis

theorem millis_ofMillis {n : Nat} : (Duration.ofMillis n).millis = n :=
  Nat.mul_div_cancel n (by decide)

theorem millis_low :
    (b.low retry).millis = (b.high retry).millis -
      ((b.high retry).millis.toUInt64.toFloat * b.jitter).toUInt64.toNat := by
  rw [low, high, millis_ofMillis, millis_ofMillis]

/-- The numbers of milliseconds in a window are far fewer than the words. -/
theorem window_fits (b : Backoff) (retry : Nat) :
    (b.high retry).millis - (b.low retry).millis + 1 < UInt64.size := by
  have short : b.delay retry ≤ maxBackoff :=
    Nat.le_trans (b.doubling.le_last retry) b.max_le_maxBackoff
  have millis : (b.delay retry).millis ≤ maxBackoff.millis := Nat.div_le_div_right short
  have day : maxBackoff.millis + 1 < UInt64.size := by decide
  rw [high, millis_ofMillis]
  omega

/-- A delay is left alone if it has no whole millisecond or if there is no jitter. -/
def Untouched (b : Backoff) (retry : Nat) : Prop :=
  (b.delay retry).nanos < 1000000 ∨ (b.jitter == 0) = true

/-- A span has no whole millisecond if it is shorter than one. -/
theorem millis_eq_zero_iff {d : Duration} : d.millis = 0 ↔ d.nanos < 1000000 := by
  rw [Duration.millis]
  omega

/-- A delay that jitter leaves alone. -/
theorem jittered_of_untouched (h : b.Untouched retry) :
    b.jittered retry words = (b.delay retry, words) := by
  rw [jittered, if_pos (h.imp_left millis_eq_zero_iff.mpr)]

/-- Any other is drawn from its window, in whole milliseconds. -/
theorem jittered_of_touched (h : ¬ b.Untouched retry) :
    (b.jittered retry words).1 =
      .ofMillis (words.drawBetween (b.low retry).millis (b.high retry).millis).1 := by
  rw [jittered, if_neg fun h' => h (h'.imp_left millis_eq_zero_iff.mp), low, high,
    millis_ofMillis, millis_ofMillis]
  -- The two sides differ only in that the left one has a name for what jitter may take off.
  rfl

/-- Delays that are drawn from their window. -/
structure Drawn (b : Backoff) (retry : Nat) : Prop where
  /-- The window reaches down by the part of its upper end that the jitter may take off. -/
  millis_low : (b.low retry).millis = (b.high retry).millis -
    ((b.high retry).millis.toUInt64.toFloat * b.jitter).toUInt64.toNat
  high_le : b.high retry ≤ b.delay retry
  /-- Every delay is a whole number of milliseconds in the window, -/
  inside : ∀ words, ∃ n, (b.jittered retry words).1 = .ofMillis n ∧
    (b.low retry).millis ≤ n ∧ n ≤ (b.high retry).millis
  /-- drawn in the arithmetic of words. -/
  drawn : ∀ words, (b.jittered retry words).1 = .ofMillis ((b.low retry).millis +
    (words.offset ((b.high retry).millis - (b.low retry).millis + 1).toUInt64).toNat)
  lowest : (b.jittered retry (.constant 0)).1 = b.low retry
  highest : (b.jittered retry (.constant (-1))).1 = b.high retry
  mono : ∀ w w', w ≤ w' →
    (b.jittered retry (.constant w)).1 ≤ (b.jittered retry (.constant w')).1

/-- **Jitter keeps a delay in its window.**  Delays below one millisecond and delays without jitter
are left alone; every other is drawn from the window, both of whose ends can be drawn. -/
theorem jittered_drawn (b : Backoff) (retry : Nat) :
    (b.Untouched retry → ∀ words, b.jittered retry words = (b.delay retry, words)) ∧
      (¬ b.Untouched retry → b.Drawn retry) := by
  refine ⟨fun untouched _ => jittered_of_untouched untouched, fun touched => ?_⟩
  have ordered : (b.low retry).millis ≤ (b.high retry).millis := by
    rw [millis_low]
    exact Nat.sub_le _ _
  have fits := window_fits b retry
  refine
    { millis_low := millis_low
      high_le := ofMillis_le (Nat.le_refl _)
      inside := fun words => ⟨_, jittered_of_touched touched, Words.drawBetween_bounds ordered⟩
      drawn := fun words => ?_
      lowest := ?_
      highest := ?_
      mono := fun w w' h => ?_ }
  · rw [jittered_of_touched touched, Words.drawBetween_eq_offset fits]
  · rw [jittered_of_touched touched, Words.drawBetween_zero ordered fits, low, millis_ofMillis]
  · rw [jittered_of_touched touched, Words.drawBetween_max ordered fits, high, millis_ofMillis]
  · rw [jittered_of_touched touched, jittered_of_touched touched]
    exact Nat.mul_le_mul_right _ (Words.drawBetween_mono fits h)

/-- Half of a hundred milliseconds is the least that a jitter of one half leaves.  The word in the
middle leaves so much in its low half that a second word is drawn, and a high one carries. -/
theorem jittered_drawn_half :
    let middle (second : UInt64) : Words := ⟨fun n => if n = 0 then 0x8282828282828282 else second⟩
    ∃ b, of (.ofMillis 100) none 0.5 = .ok b ∧ ¬ b.Untouched 1 ∧ b.Untouched 0 ∧
      b.jittered 0 (.constant 7) = (.zero, .constant 7) ∧
      (b.jittered 1 (.constant 0)).1 = .ofMillis 50 ∧
      (b.jittered 1 (.constant (-1))).1 = .ofMillis 100 ∧
      (b.jittered 1 (middle 0)).1 = .ofMillis 75 ∧
      (b.jittered 1 (middle (-1))).1 = .ofMillis 76 := by
  intro middle
  let b : Backoff := ⟨.ofMillis 100, maxBackoff, 0.5, by decide, by decide, by decide⟩
  have made : of (.ofMillis 100) none 0.5 = .ok b :=
    of_eq_ok_iff.mpr ⟨by decide, by decide, rfl, rfl, by decide⟩
  have first : b.delay 1 = .ofMillis 100 := by decide
  have touched : ¬ b.Untouched 1 := by
    rw [Untouched, first]
    decide
  have untouched : b.Untouched 0 := .inl (by decide)
  have window : b.low 1 = .ofMillis 50 ∧ b.high 1 = .ofMillis 100 := by
    rw [low, high, first]
    decide
  have drawn := (jittered_drawn b 1).2 touched
  have drawnFrom (second : UInt64) : (b.jittered 1 (middle second)).1 =
      .ofMillis (50 + ((middle second).offset 51).toNat) := by
    rw [drawn.drawn, window.1, window.2]
    rfl
  have uncarried : ((middle 0).offset 51).toNat = 25 := by decide
  have carried : ((middle (-1)).offset 51).toNat = 26 := by decide
  refine ⟨b, made, touched, untouched, (jittered_drawn b 0).1 untouched _,
    drawn.lowest.trans window.1, drawn.highest.trans window.2, ?_, ?_⟩
  · rw [drawnFrom, uncarried]
  · rw [drawnFrom, carried]

end Backoff

end Failover
