/-!
# HTTP — methods
-/

namespace Failover

/-- The characters of which HTTP builds its tokens: methods and names of headers. -/
def isTokenChar (c : Char) : Bool := c.isAlphanum || "!#$%&'*+-.^_\x60|~".toList.contains c

/-- A request method. -/
structure Method where
  name : String
deriving DecidableEq, Inhabited, Repr

namespace Method

/-- Reads a method: one or more token characters, as they stand. -/
def parse? (s : String) : Option Method :=
  if s.isEmpty || !s.toList.all isTokenChar then none else some ⟨s⟩

/-- The method `GET`, which reads. -/
def get : Method := ⟨"GET"⟩
/-- The method `HEAD`, which reads without the body. -/
def head : Method := ⟨"HEAD"⟩
/-- The method `OPTIONS`, which asks what may be done. -/
def options : Method := ⟨"OPTIONS"⟩
/-- The method `TRACE`, which has the request sent back. -/
def trace : Method := ⟨"TRACE"⟩
/-- The method `POST`, which may change something. -/
def post : Method := ⟨"POST"⟩

/-- Whether a request with this method only reads, so that it may be repeated. -/
def isSafe (m : Method) : Bool := m = get || m = head || m = options || m = trace

end Method

end Failover
