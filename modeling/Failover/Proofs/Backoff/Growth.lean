import Failover.Proofs.Backoff.Window

/-!
# Backoff — how delays grow

From its first retry on a backoff doubles its delay until it reaches the longest one, and there it
stays.  Both ends are known from what the backoff was made of.

* `of_eq_ok_iff`: which bounds make a backoff, and which bounds it has.
* `doubling`: the delays of every backoff.
* `of_doubling`: the two together.
-/

namespace Failover.Backoff

variable {b : Backoff} {min : Duration} {max : Option Duration} {jitter : Float} {m n : Nat}

/-- The longest delay under an upper bound: the bound itself, but one day at most. -/
def ceiling : Option Duration → Duration
  | none => maxBackoff
  | some d => if d ≤ maxBackoff then d else maxBackoff

theorem getD_min_maxBackoff : (max.getD maxBackoff).min maxBackoff = ceiling max := by
  cases max with
  | none => rfl
  | some d =>
      ext
      rw [ceiling, Duration.nanos_min, Option.getD_some]
      split
      · rename_i below
        exact Nat.min_eq_left below
      · rename_i above
        exact Nat.min_eq_right (Nat.le_of_not_le above)

/-- **Bounds make a backoff exactly if the lower one is neither zero nor above the upper one.** -/
theorem of_eq_ok_iff :
    of min max jitter = .ok b ↔
      0 < min.nanos ∧ min ≤ ceiling max ∧
        b.min = min ∧ b.max = ceiling max ∧ b.jitter = clampJitter jitter := by
  rw [← getD_min_maxBackoff]
  unfold of
  constructor
  · intro h
    split at h
    · cases h
    rename_i hz
    dsimp only at h
    split at h
    · cases h
    rename_i hlt
    obtain rfl := Except.ok.inj h
    exact ⟨Nat.pos_of_ne_zero hz, Nat.le_of_not_lt hlt, rfl, rfl, rfl⟩
  · rintro ⟨pos, le, hmin, hmax, hjitter⟩
    have above : ¬ (max.getD maxBackoff).min maxBackoff < min := Nat.not_lt.mpr le
    rw [dif_neg (Nat.ne_of_gt pos)]
    dsimp only
    rw [dif_neg above]
    obtain ⟨_, _, _, _, _, _⟩ := b
    cases hmin
    cases hmax
    cases hjitter
    rfl

/-- A delay that starts with one span and doubles until it reaches another. -/
structure Doubling (first last : Duration) (delay : Nat → Duration) : Prop where
  zero : delay 0 = .zero
  nanos_succ : ∀ n, (delay (n + 1)).nanos = Min.min (first.nanos * 2 ^ n) last.nanos
  first_le : ∀ n, first ≤ delay (n + 1)
  le_last : ∀ n, delay n ≤ last
  mono : ∀ m n, m ≤ n → delay m ≤ delay n
  stays : ∀ m n, m ≤ n → delay m = last → delay n = last

namespace Doubling

variable {first last : Duration} {delay : Nat → Duration}

/-- Delays are known from the law of doubling alone. -/
theorem of_nanos (ordered : first ≤ last) (zero : delay 0 = .zero)
    (nanos_succ : ∀ n, (delay (n + 1)).nanos = Min.min (first.nanos * 2 ^ n) last.nanos) :
    Doubling first last delay := by
  have mono : ∀ m n, m ≤ n → delay m ≤ delay n := by
    intro m n h
    cases m with
    | zero =>
        rw [zero]
        exact Nat.zero_le _
    | succ m =>
        obtain ⟨n, rfl⟩ := Nat.exists_eq_add_of_le' (Nat.le_trans (Nat.succ_pos m) h)
        have power : 2 ^ m ≤ 2 ^ n := Nat.pow_le_pow_right Nat.two_pos (Nat.le_of_succ_le_succ h)
        have product := Nat.mul_le_mul_left first.nanos power
        rw [Duration.le_iff, nanos_succ, nanos_succ]
        omega
  have le_last : ∀ n, delay n ≤ last := by
    intro n
    cases n with
    | zero =>
        rw [zero]
        exact Nat.zero_le _
    | succ n =>
        rw [Duration.le_iff, nanos_succ]
        exact Nat.min_le_right _ _
  refine ⟨zero, nanos_succ, fun n => ?_, le_last, mono, fun m n h reached => ?_⟩
  · rw [Duration.le_iff, nanos_succ, Nat.le_min]
    exact ⟨Nat.le_mul_of_pos_right _ (Nat.two_pow_pos n), ordered⟩
  · have above : last ≤ delay n := reached ▸ mono m n h
    ext
    exact Nat.le_antisymm (le_last n) above

end Doubling

/-- **Every backoff doubles its delay up to its longest one.** -/
theorem doubling (b : Backoff) : Doubling b.min b.max b.delay :=
  .of_nanos b.min_le_max rfl fun n => by rw [delay_succ, Duration.nanos_min]

/-- **Bounds make a backoff exactly if the lower one is neither zero nor above the upper one**, and
its delays then double from the one to the other in exact arithmetic. -/
theorem of_doubling (min : Duration) (max : Option Duration) (jitter : Float) :
    ((∃ b, of min max jitter = .ok b) ↔ 0 < min.nanos ∧ min ≤ ceiling max) ∧
      ∀ b, of min max jitter = .ok b →
        b.min = min ∧ b.max = ceiling max ∧ Doubling min (ceiling max) b.delay := by
  refine ⟨⟨?_, ?_⟩, ?_⟩
  · rintro ⟨b, h⟩
    obtain ⟨pos, le, -⟩ := of_eq_ok_iff.mp h
    exact ⟨pos, le⟩
  · rintro ⟨pos, le⟩
    have below : ceiling max ≤ maxBackoff := by
      rw [← getD_min_maxBackoff]
      exact Nat.min_le_right _ _
    exact ⟨⟨min, ceiling max, clampJitter jitter, pos, le, below⟩,
      of_eq_ok_iff.mpr ⟨pos, le, rfl, rfl, rfl⟩⟩
  · intro b h
    obtain ⟨-, -, hmin, hmax, -⟩ := of_eq_ok_iff.mp h
    exact ⟨hmin, hmax, hmin ▸ hmax ▸ b.doubling⟩

/-- Five milliseconds reach one day at the twenty-sixth retry, and have not left it at the last
retry that can be counted. -/
theorem of_doubling_saturated :
    0 < (Duration.ofMillis 5).nanos ∧ Duration.ofMillis 5 ≤ ceiling none ∧
      ∃ b, of (.ofMillis 5) none 0 = .ok b ∧ b.delay 3 = .ofMillis 20 ∧
        b.delay 26 = maxBackoff ∧ b.delay (UInt64.size - 1) = maxBackoff := by
  have pos : 0 < (Duration.ofMillis 5).nanos := by decide
  have le : Duration.ofMillis 5 ≤ ceiling none := by decide
  obtain ⟨isOk, law⟩ := of_doubling (.ofMillis 5) none 0
  obtain ⟨b, hb⟩ := isOk.mpr ⟨pos, le⟩
  obtain ⟨-, -, doubling⟩ := law b hb
  have third : b.delay 3 = .ofMillis 20 := by
    ext
    exact (doubling.nanos_succ 2).trans (by decide)
  have reached : b.delay 26 = maxBackoff := by
    ext
    exact (doubling.nanos_succ 25).trans (by decide)
  exact ⟨pos, le, b, hb, third, reached, doubling.stays 26 _ (by decide) reached⟩

end Failover.Backoff
