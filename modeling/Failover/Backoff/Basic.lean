import Failover.Backoff.Draw
import Failover.Duration

/-!
# Backoff — how long to wait before a retry

Retry `n` waits `min · 2 ^ (n - 1)`, but no longer than `max`; the delay is then shortened by a
random part of it, at most the fraction `jitter`.  The first attempt never waits.
-/

namespace Failover

/-- The longest delay there is: one day. -/
def maxBackoff : Duration := .ofSeconds 86400

/-- The shortest and the longest delay, with the fraction that jitter may take off. -/
structure Backoff where
  min : Duration
  max : Duration
  jitter : Float
  min_pos : 0 < min.nanos
  min_le_max : min ≤ max
  max_le_maxBackoff : max ≤ maxBackoff
deriving DecidableEq

/-- Why bounds are no bounds of a backoff. -/
inductive BackoffError where
  | zeroMin
  | maxBelowMin (max min : Duration)
deriving DecidableEq, Repr

/-- The message of a refusal. -/
def BackoffError.text : BackoffError → String
  | .zeroMin => "min_backoff must be greater than zero"
  | .maxBelowMin max min =>
    "max_backoff (" ++ max.text ++ ") must be >= min_backoff (" ++ min.text ++ ")"

namespace Backoff

/-- A jitter that is no number counts as none; any other is brought into the range from 0 to 1. -/
def clampJitter (x : Float) : Float :=
  if x.isNaN then 0 else if x < 0 then 0 else if 1 < x then 1 else x

/-- A backoff with the given bounds; without an upper bound, or with one above it, the longest
delay there is takes its place. -/
def of (min : Duration) (max : Option Duration) (jitter : Float) : Except BackoffError Backoff :=
  if hz : min.nanos = 0 then .error .zeroMin
  else
    let bound := (max.getD maxBackoff).min maxBackoff
    if hlt : bound < min then .error (.maxBelowMin bound min)
    else .ok
      { min := min
        max := bound
        jitter := clampJitter jitter
        min_pos := Nat.pos_of_ne_zero hz
        min_le_max := Nat.le_of_not_lt hlt
        max_le_maxBackoff := Nat.min_le_right _ _ }

/-! ### The delay -/

/-- The largest number of 32 bits, at which exponents are cut off. -/
def maxExponent : Nat := Nat.pow 2 32 - 1

/-- The largest number of 128 bits, at which powers and products are cut off. -/
def maxWide : Nat := Nat.pow 2 128 - 1

/-- `2 ^ n`, cut off at 128 bits. -/
def powerOfTwo (n : Nat) : Nat := if n < 128 then Nat.pow 2 n else maxWide

/-- The delay before a retry, without jitter.  The exponent is a number of 32 bits, the product one
of 128 bits, and the span is counted in 64 bits. -/
def delay (b : Backoff) (retry : Nat) : Duration :=
  if retry = 0 then .zero
  else
    let exponent := (Nat.min (retry - 1) maxExponent).toUInt32
    let nanos := Nat.min (b.min.nanos * powerOfTwo exponent.toNat) maxWide
    let counted := (Nat.min nanos maxBackoff.nanos).toUInt64
    Duration.min ⟨counted.toNat⟩ b.max

/-! ### Jitter -/

/-- The most that jitter takes off a delay of `millis` milliseconds: the product in doubles,
without its fraction. -/
def spread (b : Backoff) (millis : Nat) : Nat :=
  (millis.toUInt64.toFloat * b.jitter).toUInt64.toNat

/-- The delay before a retry with jitter: a whole number of milliseconds drawn from the window
below the plain delay.  A delay below one millisecond is not touched. -/
def jittered (b : Backoff) (retry : Nat) (words : Words) : Duration × Words :=
  let delay := b.delay retry
  let millis := delay.millis
  if millis = 0 ∨ (b.jitter == 0) = true then (delay, words)
  else
    let (n, words) := words.drawBetween (millis - b.spread millis) millis
    (.ofMillis n, words)

end Backoff

end Failover
