import Failover.Decimal.Shortest
import Failover.Json.Basic
import Failover.Text.Hex

/-!
# JSON — the compact text of a value

No blanks; characters beyond ASCII stand as they are, quotes, backslashes and control characters
are escaped.
-/

namespace Failover.Json

/-- How a character stands in a string literal. -/
def escape (c : Char) : List Char :=
  match c with
  | '"' => ['\\', '"']
  | '\\' => ['\\', '\\']
  | '\x08' => ['\\', 'b']
  | '\x0c' => ['\\', 'f']
  | '\n' => ['\\', 'n']
  | '\r' => ['\\', 'r']
  | '\t' => ['\\', 't']
  | c =>
    if c.toNat < 0x20 then
      ['\\', 'u', '0', '0', Text.hexDigit (c.toNat / 16), Text.hexDigit (c.toNat % 16)]
    else [c]

/-- A string literal. -/
def quote (s : List Char) : List Char := '"' :: s.flatMap escape ++ ['"']

/-- Numbers are written positionally from 0.00001 up to below 10000000000000000, otherwise with a
signed exponent; a tie goes to the even digit. -/
def numberFormat : Decimal.Format :=
  { lowest := -5, highest := 15, plusSign := true, tie := .toEven }

/-- A double as a value; one that is not finite has no number. -/
def ofFloat (x : Float) : Json :=
  if x.isFinite then .number (.ofFloat numberFormat x) else .null

/-- Joins texts with a comma between them. -/
def commaSeparated : List (List Char) → List Char
  | [] => []
  | [t] => t
  | t :: u :: ts => t ++ ',' :: commaSeparated (u :: ts)

mutual

/-- The compact text of a value. -/
def chars : Json → List Char
  | .null => "null".toList
  | .bool true => "true".toList
  | .bool false => "false".toList
  | .number n => n.chars
  | .string s => quote (s.getD "").toList
  | .array items => '[' :: commaSeparated (charsOfItems items) ++ [']']
  | .object members => '{' :: commaSeparated (charsOfMembers members) ++ ['}']

/-- The texts of an array's items. -/
def charsOfItems : List Json → List (List Char)
  | [] => []
  | v :: vs => chars v :: charsOfItems vs

/-- The texts of an object's members. -/
def charsOfMembers : List (StringContent × Json) → List (List Char)
  | [] => []
  | (k, v) :: ms => (quote (k.getD "").toList ++ ':' :: chars v) :: charsOfMembers ms

end

/-- The compact text of a value, as a string. -/
def text (j : Json) : String := String.ofList j.chars

end Failover.Json
