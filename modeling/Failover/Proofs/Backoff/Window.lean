import Failover.Backoff.Basic
import Mathlib.Algebra.Group.Nat.Defs

/-!
# Backoff — delays and their windows

The powers, products and spans that a delay is computed from are cut off at fixed widths; none of
the cuts changes the delay, since the longest delay there is lies below all of them.  A delay with
jitter stays between the low end of its window and the plain delay, whatever the generator yields.

* `delay_succ`: the plain delay.
* `Words.drawBetween_bounds`: a drawn number stays within its range.
* `jittered_of_zero`, `jittered_inWindow`: a delay without and with jitter.
-/

namespace Failover

theorem Duration.nanos_min {a b : Duration} : (a.min b).nanos = Min.min a.nanos b.nanos := rfl

namespace Backoff

variable {b : Backoff} {n retry : Nat} {words : Words}

/-! ### The plain delay -/

theorem maxBackoff_le_maxWide : maxBackoff.nanos ≤ maxWide := by decide

/-- Below 128 no power is cut off, and exponents are cut off far above. -/
theorem powerOfTwo_of_lt (h : n < 128) : powerOfTwo (Nat.min n maxExponent) = 2 ^ n := by
  have hn : n ≤ maxExponent := Nat.le_trans (Nat.le_of_lt h) (by decide)
  have he : Nat.min n maxExponent = n := Nat.min_eq_left hn
  rw [he, powerOfTwo, if_pos h]
  rfl

theorem powerOfTwo_of_le (h : 128 ≤ n) : powerOfTwo (Nat.min n maxExponent) = maxWide := by
  have hn : 128 ≤ Nat.min n maxExponent := Nat.le_min.mpr ⟨h, by decide⟩
  rw [powerOfTwo, if_neg (Nat.not_lt.mpr hn)]

theorem toNat_exponent : (Nat.min n maxExponent).toUInt32.toNat = Nat.min n maxExponent :=
  UInt32.toNat_ofNat_of_lt' (Nat.lt_of_le_of_lt (Nat.min_le_right _ _) (by decide))

theorem toNat_counted :
    (Nat.min n maxBackoff.nanos).toUInt64.toNat = Nat.min n maxBackoff.nanos :=
  UInt64.toNat_ofNat_of_lt' (Nat.lt_of_le_of_lt (Nat.min_le_right _ _) (by decide))

/-- **Retry `n + 1` waits `min · 2 ^ n`, but no longer than `max`.** -/
theorem delay_succ : b.delay (n + 1) = .min ⟨b.min.nanos * 2 ^ n⟩ b.max := by
  have ceiling : b.max.nanos ≤ maxBackoff.nanos := b.max_le_maxBackoff
  have wide := maxBackoff_le_maxWide
  have hd : (b.delay (n + 1)).nanos =
      Min.min (Min.min (Min.min (b.min.nanos * powerOfTwo (Nat.min n maxExponent)) maxWide)
        maxBackoff.nanos) b.max.nanos := by
    unfold delay
    rw [if_neg (Nat.succ_ne_zero n), Nat.add_sub_cancel]
    dsimp only
    rw [toNat_exponent, toNat_counted]
    rfl
  ext
  rw [hd, Duration.nanos_min]
  dsimp only
  rcases Nat.lt_or_ge n 128 with small | large
  · rw [powerOfTwo_of_lt small]
    omega
  -- The power is cut off, and `max` is below the cut.
  · rw [powerOfTwo_of_le large]
    have cut : maxWide ≤ b.min.nanos * maxWide := Nat.le_mul_of_pos_left _ b.min_pos
    have power : maxWide ≤ 2 ^ n :=
      Nat.le_trans (Nat.sub_le _ _) (Nat.pow_le_pow_right Nat.two_pos large)
    have uncut : 2 ^ n ≤ b.min.nanos * 2 ^ n := Nat.le_mul_of_pos_left _ b.min_pos
    generalize maxWide = cutoff at *
    omega

/-- No retry goes without a wait. -/
theorem delay_succ_pos : 0 < (b.delay (n + 1)).nanos := by
  rw [delay_succ, Duration.nanos_min, Nat.lt_min]
  exact ⟨Nat.mul_pos b.min_pos (Nat.two_pow_pos n), Nat.lt_of_lt_of_le b.min_pos b.min_le_max⟩

end Backoff

/-! ### Drawing -/

/-- A word times a size leaves less than the size in the high half; and if it leaves one less, then
the low half is too small to carry. -/
theorem Words.product_bounds {word size : Nat} (hw : word < UInt64.size) (hs : 0 < size) :
    word * size / UInt64.size < size ∧
      (UInt64.size - size < word * size % UInt64.size →
        word * size / UInt64.size + 1 < size) := by
  have top : word * size ≤ (UInt64.size - 1) * size :=
    Nat.mul_le_mul_right size (Nat.le_sub_one_of_lt hw)
  rw [UInt64.size] at *
  generalize word * size = product at *
  omega

/-- A number drawn from a range lies in it. -/
theorem Words.drawBetween_bounds {s : Words} {low high : Nat} (ordered : low ≤ high) :
    low ≤ (s.drawBetween low high).1 ∧ (s.drawBetween low high).1 ≤ high := by
  have one : 0 < high - low + 1 := Nat.succ_pos _
  obtain ⟨offset, carry⟩ := product_bounds s.head.toNat_lt one
  unfold drawBetween
  dsimp only
  generalize s.head.toNat * (high - low + 1) / UInt64.size = n at *
  split
  · rename_i large
    have := carry large
    split <;> dsimp only <;> omega
  · dsimp only
    omega

namespace Backoff

variable {b : Backoff} {retry : Nat} {words : Words}

/-! ### The window -/

/-- The shortest delay that jitter may leave: whole milliseconds, less the fraction of them that the
jitter is, as a product in doubles without what it has behind the point. -/
def low (b : Backoff) (retry : Nat) : Duration :=
  let millis := (b.delay retry).millis
  .ofMillis (millis - (millis.toUInt64.toFloat * b.jitter).toUInt64.toNat)

/-- A delay is one that jitter may leave. -/
structure InWindow (b : Backoff) (retry : Nat) (d : Duration) : Prop where
  low_le : b.low retry ≤ d
  le_delay : d ≤ b.delay retry

/-- The whole milliseconds of a delay do not exceed it. -/
theorem ofMillis_le {d : Duration} {n : Nat} (h : n ≤ d.millis) : .ofMillis n ≤ d := by
  rw [Duration.le_iff]
  rw [Duration.millis] at h
  exact Nat.le_trans (Nat.mul_le_mul_right _ h) (Nat.div_mul_le_self _ _)

theorem low_le_delay : b.low retry ≤ b.delay retry := ofMillis_le (Nat.sub_le _ _)

/-- Without jitter the delay is the plain one. -/
theorem jittered_of_zero (h : (b.jitter == 0) = true) :
    b.jittered retry words = (b.delay retry, words) := by
  rw [jittered, if_pos (.inr h)]

/-- **With jitter the delay stays in its window.** -/
theorem jittered_inWindow : b.InWindow retry (b.jittered retry words).1 := by
  unfold jittered
  dsimp only
  split
  · exact ⟨low_le_delay, Nat.le_refl _⟩
  · obtain ⟨above, under⟩ := words.drawBetween_bounds (Nat.sub_le _ _)
    exact ⟨Nat.mul_le_mul_right _ above, ofMillis_le under⟩

end Backoff

end Failover
