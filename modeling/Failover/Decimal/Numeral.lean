/-!
# Decimal — numerals

A decimal numeral as it is written: a sign, whole digits, and maybe a fraction and an exponent.
It is read as a natural number when it is written as one, and as a double by gathering as many
leading digits as fit in 64 bits and scaling them by one power of ten.
-/

namespace Failover

/-- The sign in front of the digits of an exponent. -/
inductive ExponentSign where
  | absent | plus | minus
deriving DecidableEq, Repr

/-- The sign as it is written. -/
def ExponentSign.chars : ExponentSign → List Char
  | .absent => []
  | .plus => ['+']
  | .minus => ['-']

/-- A power of ten as it stands at the end of a numeral. -/
structure Exponent where
  sign : ExponentSign
  digits : List Char
deriving DecidableEq, Repr

/-- Whether an exponent has a minus sign. -/
def Exponent.isNegative (e : Exponent) : Bool := e.sign = .minus

/-- A decimal numeral as it is written. -/
structure Numeral where
  negative : Bool
  whole : List Char
  fraction : Option (List Char)
  exponent : Option Exponent
deriving DecidableEq, Repr

namespace Numeral

/-- The value of one digit. -/
def digitValue (c : Char) : Nat := c.toNat - '0'.toNat

/-- The number that a row of digits stands for. -/
def natOfDigits (ds : List Char) : Nat := ds.foldl (fun n c => 10 * n + digitValue c) 0

/-- The numeral of a natural number. -/
def ofNat (n : Nat) : Numeral := ⟨false, Nat.toDigits 10 n, none, none⟩

/-- The natural number a numeral is written as; a sign, a fraction or an exponent is refused. -/
def toNat? (n : Numeral) : Option Nat :=
  if n.negative || n.fraction.isSome || n.exponent.isSome then none
  else some (natOfDigits n.whole)

/-- The characters of the numeral; a small letter stands before its exponent. -/
def chars (n : Numeral) : List Char :=
  (if n.negative then ['-'] else []) ++ n.whole ++
    (match n.fraction with
      | none => []
      | some ds => '.' :: ds) ++
    (match n.exponent with
      | none => []
      | some e => 'e' :: e.sign.chars ++ e.digits)

/-- The numeral as it is written. -/
def text (n : Numeral) : String := String.ofList n.chars

/-! ### As a double -/

/-- Appends digits to a number while the result fits in 64 bits; gives the number and the digits
that were left over. -/
def gather : Nat → List Char → Nat × List Char
  | n, [] => (n, [])
  | n, c :: ds =>
    if 10 * n + digitValue c < UInt64.size then gather (10 * n + digitValue c) ds else (n, c :: ds)

/-- The power of ten as a double, for exponents below 309. -/
def powerOfTen (e : Nat) : Float := Float.ofScientific 1 false e

/-- The largest power of ten that is a double. -/
def maxPower : Nat := 308

/-- Divides by a power of ten, in steps that are doubles; a value that has become zero stays. -/
def scaleDown : (steps : Nat) → Float → (e : Nat) → Float
  | 0, x, e => x / powerOfTen e
  | steps + 1, x, e =>
    if e ≤ maxPower then x / powerOfTen e
    else if x == 0 then x
    else scaleDown steps (x / powerOfTen maxPower) (e - maxPower)

/-- `x · 10 ^ e` in doubles; nothing where the result has no finite value. -/
def scale? (x : Float) (e : Int) : Option Float :=
  match e with
  | .ofNat e =>
    if e ≤ maxPower then
      let y := x * powerOfTen e
      if y.isInf then none else some y
    else if x == 0 then some x
    else none
  | .negSucc e => some (scaleDown ((e + 1) / maxPower) x (e + 1))

/-- The largest exponent whose digits are taken at their value. -/
def maxExponent : Nat := Nat.pow 2 31 - 1

/-- The double a numeral is read as.  The digits that fit in 64 bits are taken, those of the
fraction lower the exponent, whole digits that are left over raise it, and the result is scaled
once.  A numeral whose value is too large for a double has no reading. -/
def toFloat? (n : Numeral) : Option Float :=
  let (lead, left) := gather 0 n.whole
  let fraction := n.fraction.getD []
  let (significand, dropped) := gather lead fraction
  let shift : Int := left.length - (fraction.length - dropped.length : Nat)
  let x := significand.toUInt64.toFloat
  let magnitude :=
    match n.exponent with
    | none => scale? x shift
    | some e =>
      let value := natOfDigits e.digits
      if e.isNegative then
        if value ≤ maxExponent then scale? x (shift - value) else some 0
      else if value ≤ maxExponent then scale? x (shift + value)
      else if significand = 0 then some 0
      else none
  magnitude.map fun y => if n.negative then -y else y

end Numeral

end Failover
