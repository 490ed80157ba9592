import Failover.Text.Hex
import Failover.Text.Unprintable

/-!
# Text — quoted for inspection

A text between double quotes, with escapes for quotes, backslashes and whatever shows no glyph;
and the same for the bytes of a body and for the value of a header.
-/

namespace Failover.Text

/-- The hexadecimal digits of a number, without zeros in front. -/
def hexDigits (n : Nat) : List Char := Nat.toDigits 16 n

/-- How a character stands in a quoted text. -/
def escape (c : Char) : List Char :=
  match c with
  | '"' => ['\\', '"']
  | '\\' => ['\\', '\\']
  | '\n' => ['\\', 'n']
  | '\r' => ['\\', 'r']
  | '\t' => ['\\', 't']
  | '\x00' => ['\\', '0']
  | c => if isUnprintable c then ['\\', 'u', '{'] ++ hexDigits c.toNat ++ ['}'] else [c]

/-- A text between quotes. -/
def quoted (s : String) : String := String.ofList ('"' :: s.toList.flatMap escape ++ ['"'])

/-- How a byte stands in a quoted row of bytes. -/
def escapeByte (b : UInt8) : List Char :=
  match Char.ofNat b.toNat with
  | '"' => ['\\', '"']
  | '\\' => ['\\', '\\']
  | '\n' => ['\\', 'n']
  | '\r' => ['\\', 'r']
  | '\t' => ['\\', 't']
  | '\x00' => ['\\', '0']
  | c =>
    if 0x20 ≤ b.toNat ∧ b.toNat < 0x7F then [c]
    else ['\\', 'x', hexDigit (b.toNat / 16), hexDigit (b.toNat % 16)]

/-- The bytes of a text between quotes. -/
def quotedBytes (s : String) : String :=
  String.ofList ('b' :: '"' :: s.toUTF8.toList.flatMap escapeByte ++ ['"'])

/-- How a byte stands in the quoted value of a header. -/
def escapeHeaderByte (b : UInt8) : List Char :=
  let c := Char.ofNat b.toNat
  if c = '"' then ['\\', '"']
  else if (0x20 ≤ b.toNat ∧ b.toNat < 0x7F) ∨ c = '\t' then [c]
  else ['\\', 'x'] ++ hexDigits b.toNat

/-- The value of a header between quotes. -/
def quotedHeader (s : String) : String :=
  String.ofList ('"' :: s.toUTF8.toList.flatMap escapeHeaderByte ++ ['"'])

end Failover.Text
