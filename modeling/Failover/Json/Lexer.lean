import Failover.Json.Basic
import Failover.Text.Hex

/-!
# JSON — from characters to tokens

Blanks separate tokens and are dropped.  A string literal is read in two stages: its characters
and escapes as pieces, and then the pieces as Unicode text.
-/

namespace Failover.Json

/-- The tokens of a text.  Literals are read already. -/
inductive Token where
  | openBrace | closeBrace | openBracket | closeBracket | colon | comma
  | null
  | bool (b : Bool)
  | number (n : Numeral)
  | string (s : StringContent)
deriving Repr

/-- The white space of JSON. -/
def isBlank (c : Char) : Bool := c == ' ' || c == '\t' || c == '\n' || c == '\r'

/-! ### String literals -/

/-- A piece of a string literal: a character, or the code unit of a numeric escape. -/
inductive Piece where
  | char (c : Char)
  | unit (n : Nat)
deriving DecidableEq, Repr

/-- The code unit of four hexadecimal digits. -/
def unitOfHex? (a b c d : Char) : Option Nat :=
  match Text.hexValue? a, Text.hexValue? b, Text.hexValue? c, Text.hexValue? d with
  | some a, some b, some c, some d => some (((a * 16 + b) * 16 + c) * 16 + d)
  | _, _, _, _ => none

/-- The character of a one-letter escape. -/
def escaped? : Char → Option Char
  | '"' => some '"'
  | '\\' => some '\\'
  | '/' => some '/'
  | 'b' => some '\x08'
  | 'f' => some '\x0c'
  | 'n' => some '\n'
  | 'r' => some '\r'
  | 't' => some '\t'
  | _ => none

/-- Reads a literal behind its opening quote: its pieces, behind those read before in reverse, and
what follows the closing quote.  Control characters must be escaped. -/
def scanString (read : List Piece) : List Char → Option (List Piece × List Char)
  | [] => none
  | '"' :: cs => some (read.reverse, cs)
  | '\\' :: 'u' :: a :: b :: c :: d :: cs =>
    match unitOfHex? a b c d with
    | some n => scanString (.unit n :: read) cs
    | none => none
  | '\\' :: c :: cs =>
    match escaped? c with
    | some c => scanString (.char c :: read) cs
    | none => none
  | c :: cs => if c.toNat < 0x20 then none else scanString (.char c :: read) cs

/-- Whether a code unit is the first half of a surrogate pair. -/
def isHighSurrogate (n : Nat) : Bool := 0xD800 ≤ n && n ≤ 0xDBFF

/-- Whether a code unit is the second half of a surrogate pair. -/
def isLowSurrogate (n : Nat) : Bool := 0xDC00 ≤ n && n ≤ 0xDFFF

/-- The character that two surrogates name together. -/
def pairedChar (high low : Nat) : Char :=
  Char.ofNat (0x10000 + (high - 0xD800) * 0x400 + (low - 0xDC00))

/-- The characters of a literal's pieces, behind those gathered before in reverse.  A surrogate
stands only in a pair of numeric escapes, the high one first. -/
def assemble (gathered : List Char) : List Piece → Option (List Char)
  | [] => some gathered.reverse
  | .char c :: ps => assemble (c :: gathered) ps
  | .unit n :: ps =>
    if isHighSurrogate n then
      match ps with
      | .unit m :: ps => if isLowSurrogate m then assemble (pairedChar n m :: gathered) ps else none
      | _ => none
    else if isLowSurrogate n then none
    else assemble (Char.ofNat n :: gathered) ps

/-- What the pieces of a literal stand for. -/
def contentOf (ps : List Piece) : StringContent := (assemble [] ps).map String.ofList

/-! ### Numbers -/

/-- Reads one digit or more. -/
def scanDigits (cs : List Char) : Option (List Char × List Char) :=
  let digits := cs.takeWhile Char.isDigit
  if digits.isEmpty then none else some (digits, cs.dropWhile Char.isDigit)

/-- Reads the whole digits of a number: no zero stands in front of another digit. -/
def scanWhole (cs : List Char) : Option (List Char × List Char) :=
  match scanDigits cs with
  | some ('0' :: _ :: _, _) => none
  | other => other

/-- Reads a fraction, if a point follows. -/
def scanFraction : List Char → Option (Option (List Char) × List Char)
  | '.' :: cs => (scanDigits cs).map fun (ds, cs) => (some ds, cs)
  | cs => some (none, cs)

/-- Reads the sign of an exponent. -/
def scanExponentSign : List Char → ExponentSign × List Char
  | '-' :: cs => (.minus, cs)
  | '+' :: cs => (.plus, cs)
  | cs => (.absent, cs)

/-- Reads an exponent, if its letter follows. -/
def scanExponent : List Char → Option (Option Exponent × List Char)
  | c :: cs =>
    if c = 'e' ∨ c = 'E' then
      let (sign, cs) := scanExponentSign cs
      (scanDigits cs).map fun (ds, cs) => (some ⟨sign, ds⟩, cs)
    else some (none, c :: cs)
  | [] => some (none, [])

/-- Reads a number without its sign. -/
def scanUnsigned (negative : Bool) (cs : List Char) : Option (Numeral × List Char) :=
  match scanWhole cs with
  | none => none
  | some (whole, cs) =>
    match scanFraction cs with
    | none => none
    | some (fraction, cs) =>
      match scanExponent cs with
      | none => none
      | some (exponent, cs) => some (⟨negative, whole, fraction, exponent⟩, cs)

/-- Reads a number; only a minus may be its sign. -/
def scanNumber : List Char → Option (Numeral × List Char)
  | '-' :: cs => scanUnsigned true cs
  | cs => scanUnsigned false cs

/-! ### Tokens -/

/-- The token at the start of a text that starts with no blank. -/
def nextToken : List Char → Option (Token × List Char)
  | [] => none
  | '{' :: cs => some (.openBrace, cs)
  | '}' :: cs => some (.closeBrace, cs)
  | '[' :: cs => some (.openBracket, cs)
  | ']' :: cs => some (.closeBracket, cs)
  | ':' :: cs => some (.colon, cs)
  | ',' :: cs => some (.comma, cs)
  | '"' :: cs => (scanString [] cs).map fun (ps, cs) => (.string (contentOf ps), cs)
  | 'n' :: 'u' :: 'l' :: 'l' :: cs => some (.null, cs)
  | 't' :: 'r' :: 'u' :: 'e' :: cs => some (.bool true, cs)
  | 'f' :: 'a' :: 'l' :: 's' :: 'e' :: cs => some (.bool false, cs)
  | cs => (scanNumber cs).map fun (n, cs) => (.number n, cs)

/-- The tokens of a text, behind those read before in reverse.  Each step takes a character or
more, so that the length of the text is fuel enough. -/
def lexFrom (read : List Token) : (fuel : Nat) → List Char → Option (List Token)
  | _, [] => some read.reverse
  | 0, _ :: _ => none
  | fuel + 1, c :: cs =>
    if isBlank c then lexFrom read fuel cs
    else
      match nextToken (c :: cs) with
      | none => none
      | some (t, rest) => lexFrom (t :: read) fuel rest

/-- The tokens of a text. -/
def lex (cs : List Char) : Option (List Token) := lexFrom [] cs.length cs

end Failover.Json
