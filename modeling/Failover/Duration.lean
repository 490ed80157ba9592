/-!
# Durations

A span of time in whole nanoseconds, and its text: the largest unit of which the span holds at
least one, with the exact remainder as a fraction.
-/

namespace Failover

/-- A span of time in nanoseconds. -/
@[ext]
structure Duration where
  nanos : Nat
deriving DecidableEq, Inhabited, Repr

namespace Duration

/-- The empty span. -/
def zero : Duration := ⟨0⟩

/-- A number of milliseconds as a span. -/
def ofMillis (n : Nat) : Duration := ⟨n * 1000000⟩

/-- A number of seconds as a span. -/
def ofSeconds (n : Nat) : Duration := ⟨n * 1000000000⟩

/-- The whole milliseconds in a span. -/
def millis (d : Duration) : Nat := d.nanos / 1000000

instance : LE Duration := ⟨fun a b => a.nanos ≤ b.nanos⟩
instance : LT Duration := ⟨fun a b => a.nanos < b.nanos⟩
instance (a b : Duration) : Decidable (a ≤ b) := inferInstanceAs (Decidable (a.nanos ≤ b.nanos))
instance (a b : Duration) : Decidable (a < b) := inferInstanceAs (Decidable (a.nanos < b.nanos))
instance : Add Duration := ⟨fun a b => ⟨a.nanos + b.nanos⟩⟩

/-- The shorter of two spans. -/
def min (a b : Duration) : Duration := ⟨Nat.min a.nanos b.nanos⟩

theorem le_iff {a b : Duration} : a ≤ b ↔ a.nanos ≤ b.nanos := Iff.rfl

theorem lt_iff {a b : Duration} : a < b ↔ a.nanos < b.nanos := Iff.rfl

/-! ### Text -/

/-- The units a span is written in: the name, and how many decimal places of nanoseconds the unit
has. -/
inductive TimeUnit where
  | seconds | millis | micros | nanos

/-- The largest unit of which the span holds at least one. -/
def unit (d : Duration) : TimeUnit :=
  if 1000000000 ≤ d.nanos then .seconds
  else if 1000000 ≤ d.nanos then .millis
  else if 1000 ≤ d.nanos then .micros
  else .nanos

/-- Nanoseconds in one unit, as a power of ten. -/
def TimeUnit.places : TimeUnit → Nat
  | .seconds => 9
  | .millis => 6
  | .micros => 3
  | .nanos => 0

/-- The unit as it is written behind a number. -/
def TimeUnit.symbol : TimeUnit → String
  | .seconds => "s"
  | .millis => "ms"
  | .micros => "µs"
  | .nanos => "ns"

/-- The digits of `n` as a fraction of `10 ^ places`, without the zeros at its end. -/
def fractionDigits (n places : Nat) : List Char :=
  let digits := Nat.toDigits 10 n
  let padded := List.replicate (places - digits.length) '0' ++ digits
  (padded.reverse.dropWhile (· == '0')).reverse

/-- The text of a span: its whole units, then the exact rest as a fraction, if there is one. -/
def text (d : Duration) : String :=
  let unit := d.unit
  let one := Nat.pow 10 unit.places
  let whole := toString (d.nanos / one)
  let rest := d.nanos % one
  if rest = 0 then whole ++ unit.symbol
  else whole ++ "." ++ String.ofList (fractionDigits rest unit.places) ++ unit.symbol

end Duration

end Failover
