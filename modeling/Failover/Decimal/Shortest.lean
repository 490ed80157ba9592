import Failover.Decimal.Numeral

/-!
# Decimal — the shortest digits of a double

A finite double stands for every real number that rounds to it.  Its shortest digits are the
fewest decimal digits of a number in that interval, and of those the nearest to the double itself.
A format says which of two equally near numbers is taken, and where the digits are written
positionally and where with an exponent.
-/

namespace Failover

/-- A positive decimal number, `digits · 10 ^ exponent`. -/
structure Decimal where
  digits : Nat
  exponent : Int
deriving DecidableEq, Repr

namespace Decimal

/-! ### The interval of a double -/

/-- The reals that round to a positive double, as fractions over one denominator: the double is
`value / scale`, and the interval runs from `low / scale` to `high / scale`. -/
structure Rounding where
  low : Nat
  value : Nat
  high : Nat
  scale : Nat
  /-- Whether the two ends belong to the interval. -/
  closed : Bool

/-- The interval of the double with the given exponent field and fraction field.  The gap below a
power of two is half the gap above it, and the ends round to the even significand. -/
def Rounding.ofFields (exponent fraction : Nat) : Rounding :=
  let significand := if exponent = 0 then fraction else Nat.pow 2 52 + fraction
  let below := if fraction = 0 ∧ 1 < exponent then 1 else 2
  let power := max exponent 1
  let up := Nat.pow 2 (power - 1077)
  { low := (4 * significand - below) * up
    value := 4 * significand * up
    high := (4 * significand + 2) * up
    scale := Nat.pow 2 (1077 - power)
    closed := significand % 2 = 0 }

/-- Whether the fraction `a / b` lies in the interval. -/
def Rounding.holds (r : Rounding) (a b : Nat) : Bool :=
  if r.closed then r.low * b ≤ a * r.scale && a * r.scale ≤ r.high * b
  else r.low * b < a * r.scale && a * r.scale < r.high * b

/-! ### The search -/

/-- The exponent of the first decimal digit of `a / b`. -/
def leadingExponent (a b : Nat) : Int :=
  if b ≤ a then ((Nat.toDigits 10 (a / b)).length : Int) - 1
  else
    -- `10 ^ k` reaches `b / a` as soon as `k` digits write the largest number below `b / a`.
    -((Nat.toDigits 10 ((b + a - 1) / a - 1)).length : Int)

/-- `n · 10 ^ e` as a fraction. -/
def asFraction (n : Nat) (e : Int) : Nat × Nat :=
  (n * Nat.pow 10 e.toNat, Nat.pow 10 (-e).toNat)

/-- Which of two equally near neighbours is taken. -/
inductive Tie where
  /-- The even one. -/
  | toEven
  /-- The larger one in magnitude. -/
  | awayFromZero
deriving DecidableEq, Repr

/-- Whether a tie between `n` and `n + 1` goes to `n + 1`. -/
def Tie.goesUp : Tie → (n : Nat) → Bool
  | .toEven, n => n % 2 == 1
  | .awayFromZero, _ => true

/-- The neighbour of the double on the grid of step `10 ^ e` that rounds to it; of two that do the
nearer one. -/
def Rounding.onGrid (r : Rounding) (tie : Tie) (e : Int) : Option Nat :=
  let (num, den) := asFraction 1 e
  let a := r.value * den
  let b := r.scale * num
  let down := a / b
  let fits (n : Nat) : Bool := let (x, y) := asFraction n e; r.holds x y
  let rest := a % b
  let upFirst := b < 2 * rest || (2 * rest == b && tie.goesUp down)
  match fits down && 0 < down, fits (down + 1) with
  | true, true => some (if upFirst then down + 1 else down)
  | true, false => some down
  | false, true => some (down + 1)
  | false, false => none

/-- Moves zeros at the end of the digits into the exponent. -/
def trim : (fuel : Nat) → Decimal → Decimal
  | 0, d => d
  | fuel + 1, d =>
    if d.digits % 10 = 0 ∧ d.digits ≠ 0 then trim fuel ⟨d.digits / 10, d.exponent + 1⟩ else d

/-- The first grid, from coarse to fine, that has a point in the interval. -/
def search (r : Rounding) (tie : Tie) : (count : Nat) → (e : Int) → Decimal
  | 0, e => ⟨(r.onGrid tie e).getD 1, e⟩
  | count + 1, e =>
    match r.onGrid tie e with
    | some n => trim 18 ⟨n, e⟩
    | none => search r tie count (e - 1)

/-- The shortest digits of the positive double with the given fields; seventeen always do. -/
def shortest (tie : Tie) (exponent fraction : Nat) : Decimal :=
  let r := Rounding.ofFields exponent fraction
  search r tie 16 (leadingExponent r.value r.scale)

/-! ### Format -/

/-- How a double is written: positionally from `10 ^ lowest` up to below `10 ^ (highest + 1)`, and
with an exponent elsewhere. -/
structure Format where
  lowest : Int
  highest : Int
  /-- Whether an exponent that is not negative has a sign. -/
  plusSign : Bool
  tie : Tie

/-- The sign of an exponent. -/
def Format.signOf (format : Format) (exponent : Int) : ExponentSign :=
  if exponent < 0 then .minus else if format.plusSign then .plus else .absent

/-- The numeral of a decimal: positional with at least one place after the point inside the
format's range, else one digit before the point and an exponent. -/
def numeral (format : Format) (negative : Bool) (d : Decimal) : Numeral :=
  let digits := Nat.toDigits 10 d.digits
  let count := digits.length
  let leading : Int := d.exponent + count - 1
  if format.lowest ≤ leading ∧ leading ≤ format.highest then
    if 0 ≤ d.exponent then
      ⟨negative, digits ++ List.replicate d.exponent.toNat '0', some ['0'], none⟩
    else if 0 ≤ leading then
      let places := (-d.exponent).toNat
      ⟨negative, digits.take (count - places), some (digits.drop (count - places)), none⟩
    else
      ⟨negative, ['0'], some (List.replicate (-leading - 1).toNat '0' ++ digits), none⟩
  else
    ⟨negative, digits.take 1, if count = 1 then none else some (digits.drop 1),
      some ⟨format.signOf leading, Nat.toDigits 10 leading.natAbs⟩⟩

end Decimal

namespace Numeral

/-- The numeral of a finite double in a format. -/
def ofFloat (format : Decimal.Format) (x : Float) : Numeral :=
  let bits := x.toBits.toNat
  let negative := Nat.pow 2 63 ≤ bits
  let exponent := bits / Nat.pow 2 52 % Nat.pow 2 11
  let fraction := bits % Nat.pow 2 52
  if exponent = 0 ∧ fraction = 0 then ⟨negative, ['0'], some ['0'], none⟩
  else Decimal.numeral format negative (Decimal.shortest format.tie exponent fraction)

end Numeral

end Failover
