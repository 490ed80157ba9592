import Failover.Decimal.Numeral

/-!
# JSON — values as they are written

The tree of a JSON text.  It keeps what a later reader may ask about: the order and repetition of
members, the spelling of numbers, and whether the escapes of a string name Unicode text.
-/

namespace Failover

/-- What a string literal stands for; nothing where its escapes leave half of a surrogate pair. -/
abbrev StringContent := Option String

/-- A JSON value. -/
inductive Json where
  | null
  | bool (b : Bool)
  | number (n : Numeral)
  | string (s : StringContent)
  | array (items : List Json)
  | object (members : List (StringContent × Json))
deriving Inhabited

namespace Json

/-- A piece of text as a value. -/
def ofString (s : String) : Json := .string (some s)

/-- A natural number as a value. -/
def ofNat (n : Nat) : Json := .number (.ofNat n)

/-- An object with Unicode names. -/
def ofMembers (ms : List (String × Json)) : Json := .object (ms.map fun m => (some m.1, m.2))

/-! ### Views -/

/-- A truth value. -/
def bool? : Json → Option Bool
  | .bool b => some b
  | _ => none

/-- A string that stands for Unicode text. -/
def string? : Json → Option String
  | .string s => s
  | _ => none

/-- A number that is written as a natural number. -/
def nat? : Json → Option Nat
  | .number n => n.toNat?
  | _ => none

/-- A natural number of 64 bits. -/
def uint64? (j : Json) : Option UInt64 :=
  match j.nat? with
  | some n => if n < UInt64.size then some n.toUInt64 else none
  | none => none

/-- A natural number of 16 bits. -/
def uint16? (j : Json) : Option UInt16 :=
  match j.nat? with
  | some n => if n < UInt16.size then some n.toUInt16 else none
  | none => none

/-- Any number that is finite as a double. -/
def float? : Json → Option Float
  | .number n => n.toFloat?
  | _ => none

/-- The items of an array. -/
def array? : Json → Option (List Json)
  | .array items => some items
  | _ => none

/-- The value of the last member under a name. -/
def member? (name : String) : Json → Option Json
  | .object ms => (ms.reverse.find? fun m => m.1 == some name).map Prod.snd
  | _ => none

end Json

end Failover
