import Failover.Http.Header
import Failover.Http.Status
import Failover.Instance
import Failover.Uri.Parser

/-!
# Requests and responses

A request is issued with the URI of a logical service; an attempt sends it to one instance.
-/

namespace Failover

/-- A request, with the ordinal of the attempt it was stamped with; zero before any. -/
structure Request where
  method : Method
  uri : Uri
  headers : Headers
  body : String
  attempt : Nat
deriving DecidableEq, Inhabited, Repr

namespace Request

/-- A request for a URI, without headers or body. -/
def ofUri (method : Method) (uri : Uri) : Request := ⟨method, uri, .empty, "", 0⟩

/-- The request with one more value of a header. -/
def withHeader (r : Request) (name : HeaderName) (value : String) : Request :=
  { r with headers := r.headers.append name value }

end Request

/-- The answer to a request. -/
structure Response where
  status : Status
  body : String
deriving DecidableEq, Inhabited, Repr

/-- The name of the service that a URI is addressed to: its host, unless that is empty. -/
def Uri.service? (u : Uri) : Option String :=
  match u.host? with
  | none => none
  | some host => if host.isEmpty then none else some host

end Failover
