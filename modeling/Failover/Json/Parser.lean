import Failover.Json.Lexer

/-!
# JSON — from tokens to a value

A machine takes the tokens one by one and keeps the containers that are still open on a stack, so
that the depth of a text costs no more than its length.
-/

namespace Failover.Json

/-- A container that is still open, with what it holds so far in reverse. -/
inductive Frame where
  | items (done : List Json)
  | members (done : List (StringContent × Json))
  /-- An object whose next member has its name but not its value. -/
  | member (done : List (StringContent × Json)) (name : StringContent)

/-- What the machine waits for. -/
inductive Awaiting where
  /-- A value, or the end of an array that has just been opened. -/
  | value (orEnd : Bool)
  /-- A name, or the end of an object that has just been opened. -/
  | name (orEnd : Bool)
  /-- The colon between name and value. -/
  | colon
  /-- What follows a finished value. -/
  | next (v : Json)

/-- The value of a token that is one by itself. -/
def Token.value? : Token → Option Json
  | .null => some .null
  | .bool b => some (.bool b)
  | .number n => some (.number n)
  | .string s => some (.string s)
  | _ => none

/-- Takes one token. -/
def step (t : Token) (a : Awaiting) (stack : List Frame) : Option (Awaiting × List Frame) :=
  match a with
  | .value orEnd =>
    match t with
    | .openBracket => some (.value true, .items [] :: stack)
    | .openBrace => some (.name true, .members [] :: stack)
    | .closeBracket =>
      match stack with
      | .items done :: stack =>
        if orEnd then some (.next (.array done.reverse), stack) else none
      | _ => none
    | t => t.value?.map fun v => (.next v, stack)
  | .name orEnd =>
    match t, stack with
    | .string name, .members done :: stack => some (.colon, .member done name :: stack)
    | .closeBrace, .members done :: stack =>
      if orEnd then some (.next (.object done.reverse), stack) else none
    | _, _ => none
  | .colon =>
    match t with
    | .colon => some (.value false, stack)
    | _ => none
  | .next v =>
    match t, stack with
    | .comma, .items done :: stack => some (.value false, .items (v :: done) :: stack)
    | .closeBracket, .items done :: stack =>
      some (.next (.array (v :: done).reverse), stack)
    | .comma, .member done name :: stack =>
      some (.name false, .members ((name, v) :: done) :: stack)
    | .closeBrace, .member done name :: stack =>
      some (.next (.object ((name, v) :: done).reverse), stack)
    | _, _ => none

/-- Takes all tokens; they must end where a value does, with no container open. -/
def run : List Token → Awaiting → List Frame → Option Json
  | [], .next v, [] => some v
  | [], _, _ => none
  | t :: ts, a, stack =>
    match step t a stack with
    | some (a, stack) => run ts a stack
    | none => none

/-- The value of a text. -/
def parse (s : String) : Option Json :=
  match lex s.toList with
  | some ts => run ts (.value false) []
  | none => none

end Failover.Json
