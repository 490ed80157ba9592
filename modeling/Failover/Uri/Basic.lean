import Failover.Decimal.Numeral

/-!
# URIs — their forms and their text

A URI is a bare target (path and query), a bare authority, or a scheme with an authority and a
target.  This module holds the three forms, what can be asked of them, and their text.
-/

namespace Failover

/-- The path and the query of a URI.  The path is shown as it stands and is never empty. -/
structure Target where
  path : String
  query : Option String
deriving DecidableEq, Inhabited, Repr

/-- The part of a URI that names host and port, maybe behind user information. -/
structure Authority where
  text : String
deriving DecidableEq, Inhabited, Repr

/-- A URI in one of its forms. -/
inductive Uri where
  /-- Only a path, with or without a query. -/
  | target (target : Target)
  /-- Only a host, maybe with a port. -/
  | authority (authority : Authority)
  /-- A scheme, an authority and a path. -/
  | absolute (scheme : String) (authority : Authority) (target : Target)
deriving DecidableEq, Inhabited, Repr

namespace Authority

/-- What follows the last `@`: the host and the port. -/
def hostAndPort (a : Authority) : List Char :=
  (a.text.toList.reverse.takeWhile (· != '@')).reverse

/-- The host, with its brackets where it has them. -/
def host (a : Authority) : String :=
  match a.hostAndPort with
  | '[' :: rest =>
    let inside := rest.takeWhile (· != ']')
    String.ofList ('[' :: inside ++ (rest.drop inside.length).take 1)
  | chars => String.ofList (chars.takeWhile (· != ':'))

/-- A row of decimal digits as a number of 16 bits; it may start with a plus sign. -/
def readPort? (chars : List Char) : Option UInt16 :=
  let digits := match chars with
    | '+' :: rest => rest
    | _ => chars
  if digits.isEmpty || !digits.all Char.isDigit then none
  else
    let n := Numeral.natOfDigits digits
    if n < UInt16.size then some n.toUInt16 else none

/-- The number after the last `:`, if there is one. -/
def port? (a : Authority) : Option UInt16 :=
  let chars := a.text.toList.reverse
  let last := chars.takeWhile (· != ':')
  if last.length = chars.length then none else readPort? last.reverse

end Authority

namespace Target

/-- The target that an address without a path stands for. -/
def root : Target := ⟨"/", none⟩

/-- The path, and the query behind its `?`; an empty query keeps the `?`. -/
def text (t : Target) : String :=
  match t.query with
  | none => t.path
  | some q => t.path ++ "?" ++ q

end Target

namespace Uri

/-- The scheme, in the one form that has it. -/
def scheme? : Uri → Option String
  | .absolute scheme _ _ => some scheme
  | _ => none

/-- The authority, in the two forms that have it. -/
def authority? : Uri → Option Authority
  | .target _ => none
  | .authority a => some a
  | .absolute _ a _ => some a

/-- The target, in the two forms that have it. -/
def target? : Uri → Option Target
  | .target t => some t
  | .authority _ => none
  | .absolute _ _ t => some t

/-- The host, which may be empty in front of a port. -/
def host? (u : Uri) : Option String := u.authority?.map Authority.host

/-- The number behind the authority, if it has one. -/
def port? (u : Uri) : Option UInt16 := u.authority?.bind Authority.port?

/-- The path; a bare authority has none. -/
def path (u : Uri) : String := (u.target?.map Target.path).getD ""

/-- The query, which may be empty. -/
def query? (u : Uri) : Option String := u.target?.bind Target.query

/-- The URI as it is written. -/
def text : Uri → String
  | .target t => t.text
  | .authority a => a.text
  | .absolute scheme a t => scheme ++ "://" ++ a.text ++ t.text

end Uri

end Failover
