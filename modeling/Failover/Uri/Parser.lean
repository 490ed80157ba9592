import Failover.Uri.Basic

/-!
# URIs — reading them from text

The grammar is that of HTTP request targets and addresses: a text that starts with `/` is a
target, any other is an optional scheme followed by an authority, and after a scheme by a target.
A fragment is dropped.

* `Authority.scan`: the part up to the first `/`, `?` or `#`, checked character by character.
* `Target.parse`: path and query, each with its own set of characters.
* `Uri.parse`: the whole text.
-/

namespace Failover

/-- Why a text is no URI. -/
inductive UriError where
  | empty
  | tooLong
  | invalidCharacter
  | invalidAuthority
  | invalidFormat
  | schemeTooLong
deriving DecidableEq, Inhabited, Repr

/-- The fault as it is told in messages. -/
def UriError.text : UriError → String
  | .empty => "empty string"
  | .tooLong => "uri too long"
  | .invalidCharacter => "invalid uri character"
  | .invalidAuthority => "invalid authority"
  | .invalidFormat => "invalid format"
  | .schemeTooLong => "scheme too long"

/-! ### Characters -/

/-- The characters of a scheme. -/
def isSchemeChar (c : Char) : Bool := c.isAlphanum || "+-.~".toList.contains c

/-- The characters of an authority, `%` apart. -/
def isAuthorityChar (c : Char) : Bool :=
  c.isAlphanum || "!$&'()*+,-.:;=@[]_~".toList.contains c

/-- A character that ends the authority. -/
def endsAuthority (c : Char) : Bool := c == '/' || c == '?' || c == '#'

/-- The characters of a path: those of ASCII that may stand unescaped, and all beyond ASCII.  DEL,
between the two, is refused as every other control character is. -/
def isPathChar (c : Char) : Bool :=
  c.isAlphanum || "!$%&'()*+,-./:;=@[\\]^_|~\"\x7b\x7d".toList.contains c || 0x80 ≤ c.toNat

/-- The characters of a query.  It may hold more of ASCII than a path, but no DEL either. -/
def isQueryChar (c : Char) : Bool :=
  c == '!' || (0x24 ≤ c.toNat && c.toNat ≤ 0x3B) || c == '=' ||
    (0x3F ≤ c.toNat && c.toNat ≤ 0x7E) || 0x80 ≤ c.toNat

/-! ### Authority -/

/-- What the scan of an authority remembers. -/
structure AuthorityScan where
  /-- Colons since the last `]` or `@`. -/
  colons : Nat
  /-- Whether a `[` has been read. -/
  opened : Bool
  /-- Whether a `]` has been read. -/
  closed : Bool
  /-- Whether a `%` has been read since the last `]` or `@`. -/
  percent : Bool
  /-- Whether the last character was an `@`. -/
  afterAt : Bool
deriving DecidableEq, Repr

namespace AuthorityScan

/-- What is remembered before the first character. -/
def start : AuthorityScan := ⟨0, false, false, false, false⟩

/-- The most colons that an address in brackets with a port can have. -/
def maxColons : Nat := 8

/-- Reads one character.  Brackets come once, the opening one not behind a `%`; a `]` and an `@`
forget the colons and the `%` before them. -/
def step (s : AuthorityScan) (c : Char) : Except UriError AuthorityScan :=
  if c = ':' then
    if maxColons ≤ s.colons then .error .invalidAuthority
    else .ok { s with colons := s.colons + 1, afterAt := false }
  else if c = '[' then
    if s.percent || s.opened then .error .invalidAuthority
    else .ok { s with opened := true, afterAt := false }
  else if c = ']' then
    if !s.opened || s.closed then .error .invalidAuthority
    else .ok { s with closed := true, colons := 0, percent := false, afterAt := false }
  else if c = '@' then .ok { s with colons := 0, percent := false, afterAt := true }
  else if c = '%' then .ok { s with percent := true, afterAt := false }
  else if isAuthorityChar c then .ok { s with afterAt := false }
  else .error .invalidCharacter

/-- Whether an authority may end here: brackets closed, at most one colon left for the port, no
`%` outside user information and brackets, and something after the last `@`. -/
def complete (s : AuthorityScan) : Bool :=
  s.opened == s.closed && s.colons ≤ 1 && !s.afterAt && !s.percent

/-- Reads a row of characters from left to right; the first fault counts. -/
def run (s : AuthorityScan) : List Char → Except UriError AuthorityScan
  | [] => .ok s
  | c :: cs =>
    match s.step c with
    | .ok s => run s cs
    | .error e => .error e

end AuthorityScan

/-- Splits off the authority at the start of a text that is not empty. -/
def Authority.scan (chars : List Char) : Except UriError (List Char × List Char) :=
  if chars.isEmpty then .error .empty
  else
    let name := chars.takeWhile (fun c => !endsAuthority c)
    match AuthorityScan.start.run name with
    | .error e => .error e
    | .ok s => if s.complete then .ok (name, chars.dropWhile (fun c => !endsAuthority c))
      else .error .invalidAuthority

/-- Reads a text that is an authority and nothing else. -/
def Authority.parse (s : String) : Except UriError Authority :=
  match Authority.scan s.toList with
  | .error e => .error e
  | .ok (_, []) => .ok ⟨s⟩
  | .ok (_, _ :: _) => .error .invalidCharacter

/-! ### Target -/

/-- Reads path and query; a fragment is dropped, and an empty path is the root. -/
def Target.parse (chars : List Char) : Except UriError Target :=
  let path := chars.takeWhile (fun c => c != '?' && c != '#')
  let shown := if path.isEmpty then "/" else String.ofList path
  if path.all isPathChar then
    match chars.dropWhile (fun c => c != '?' && c != '#') with
    | '?' :: rest =>
      let query := rest.takeWhile (· != '#')
      if query.all isQueryChar then .ok ⟨shown, some (String.ofList query)⟩
      else .error .invalidCharacter
    | _ => .ok ⟨shown, none⟩
  else .error .invalidCharacter

/-! ### Scheme -/

/-- The longest scheme. -/
def maxSchemeLength : Nat := 64

/-- Whether a text starts with the given lower-case characters, in any letter case. -/
def startsWithIgnoringCase : (lower : List Char) → List Char → Bool
  | [], _ => true
  | _ :: _, [] => false
  | l :: ls, c :: cs => c.toLower == l && startsWithIgnoringCase ls cs

/-- Splits off the scheme and its `://`, if the text starts with one.  The two schemes of HTTP are
known in any letter case and written in lower case; any other is kept as it stands. -/
def splitScheme (chars : List Char) : Except UriError (Option String × List Char) :=
  if startsWithIgnoringCase "http://".toList chars then .ok (some "http", chars.drop 7)
  else if startsWithIgnoringCase "https://".toList chars then .ok (some "https", chars.drop 8)
  else
    let name := chars.takeWhile isSchemeChar
    match chars.dropWhile isSchemeChar with
    | ':' :: '/' :: '/' :: rest =>
      if name.isEmpty && rest.isEmpty then .ok (none, chars)
      else if maxSchemeLength < name.length then .error .schemeTooLong
      else .ok (some (String.ofList name), rest)
    | _ => .ok (none, chars)

/-! ### The whole -/

/-- The longest URI, in bytes. -/
def Uri.maxLength : Nat := 65534

/-- Reads scheme, authority and target.  Without a scheme the authority is all there may be; with
one it must not be empty. -/
def Uri.parseAddress (chars : List Char) : Except UriError Uri :=
  match splitScheme chars with
  | .error e => .error e
  | .ok (scheme, rest) =>
    match Authority.scan rest with
    | .error e => .error e
    | .ok (name, rest) =>
      match scheme with
      | none => if rest.isEmpty then .ok (.authority ⟨String.ofList name⟩)
        else .error .invalidFormat
      | some scheme =>
        if name.isEmpty then .error .invalidFormat
        else
          match Target.parse rest with
          | .error e => .error e
          | .ok t => .ok (.absolute scheme ⟨String.ofList name⟩ t)

/-- Reads a URI: the star that stands for a server as a whole, a target that begins with a slash, or
an address.  A single character can only be an authority. -/
def Uri.parse (s : String) : Except UriError Uri :=
  if Uri.maxLength < s.utf8ByteSize then .error .tooLong
  else
    match s.toList with
    | [] => .error .empty
    | ['*'] => .ok (.target ⟨"*", none⟩)
    | '/' :: rest =>
      match Target.parse ('/' :: rest) with
      | .error e => .error e
      | .ok t => .ok (.target t)
    | [_] =>
      match Authority.parse s with
      | .error e => .error e
      | .ok a => .ok (.authority a)
    | chars => Uri.parseAddress chars

end Failover
