import Failover.Failure
import Failover.Request

/-!
# Binding a request to an instance

An attempt addresses the request to the chosen instance, stamps it with its ordinal and then lets
every transformer of the pipeline edit it.  Nothing is kept from one binding to the next.

* `Uri.readdress`: the URI under which an instance answers for a service.
* `Pipeline.bind`: the request that an attempt sends.
* `bind_append`: transformers run in list order.
-/

namespace Failover

/-! ### The address -/

/-- The scheme towards an instance.  One that speaks only TLS turns the clear-text schemes into
their secure forms; a URI without a scheme counts as one of `http`.

The scheme is not read anew.  It is `http`, `https`, `wss` or a scheme that was read as part of a
URI, and each of them is a scheme when it stands alone (`IsScheme.schemeFor`), so there is no case
in which another one has to take its place. -/
def Instance.schemeFor (i : Instance) (scheme? : Option String) : String :=
  let scheme := scheme?.getD "http"
  if i.secure then
    if scheme = "http" then "https" else if scheme = "ws" then "wss" else scheme
  else scheme

/-- What is reported when an instance's host and port form no address. -/
def Instance.addressFailure (i : Instance) (cause : UriError) : Failure :=
  ⟨.invalidAddress,
    i.text ++ " has unusable address '" ++ i.authority ++ "': " ++ cause.text⟩

/-- The URI with the instance's address in place of the service's name; path and query stay.

Only the address can be at fault.  Parts fail to make a URI where one is given without another that
it needs; here scheme, authority and target are all given. -/
def Uri.readdress (u : Uri) (i : Instance) : Except Failure Uri :=
  match Authority.parse i.authority with
  | .error cause => .error (i.addressFailure cause)
  | .ok a => .ok (.absolute (i.schemeFor u.scheme?) a (u.target?.getD .root))

/-! ### The pipeline -/

/-- An edit of a request on its way to an instance. -/
abbrev Transformer := Instance → Request → Request

/-- The transformers of a client, in the order in which they run. -/
structure Pipeline where
  transformers : List Transformer

namespace Pipeline

/-- Lets every transformer edit the request, first to last. -/
def run (p : Pipeline) (i : Instance) (r : Request) : Request :=
  p.transformers.foldl (fun r t => t i r) r

/-- The request that attempt number `attempt` sends to the instance. -/
@[irreducible]
def bind (p : Pipeline) (raw : Request) (i : Instance) (attempt : Nat) :
    Except Failure Request :=
  match raw.uri.readdress i with
  | .error e => .error e
  | .ok uri => .ok (p.run i { raw with uri := uri, attempt := attempt })

theorem run_append {xs ys : List Transformer} {i : Instance} {r : Request} :
    run ⟨xs ++ ys⟩ i r = run ⟨ys⟩ i (run ⟨xs⟩ i r) :=
  List.foldl_append

theorem bind_append {xs ys : List Transformer} {raw : Request} {i : Instance} {n : Nat} :
    bind ⟨xs ++ ys⟩ raw i n = (bind ⟨xs⟩ raw i n).map (run ⟨ys⟩ i) := by
  unfold bind
  cases raw.uri.readdress i with
  | error e => rfl
  | ok uri => simp [Except.map, run_append]

end Pipeline

/-! ### Ready-made transformers -/

/-- An edit that is described by data. -/
inductive Edit where
  /-- Adds a header. -/
  | header (name : HeaderName) (value : String)
  /-- Adds the instance's id as a header. -/
  | instanceId (name : HeaderName)
  /-- Adds a value of the instance's metadata as a header. -/
  | metadata (name : HeaderName) (key : String)
  /-- Adds the ordinal of the attempt as a header. -/
  | attempt (name : HeaderName)
  /-- Replaces the URI. -/
  | uri (uri : Uri)
  /-- Adds the URI as it stands at this point as a header. -/
  | echoUri (name : HeaderName)
  /-- Lengthens the body. -/
  | bodySuffix (suffix : String)
deriving DecidableEq, Repr

namespace Edit

/-- Adds a header whose value is legal; any other value adds nothing. -/
def addHeader (name : HeaderName) (value : String) (r : Request) : Request :=
  if isHeaderValue value then r.withHeader name value else r

/-- What an edit does to a request.  An echo shows the URI that the edits before it have left, and
metadata that an instance does not have adds nothing. -/
def toTransformer : Edit → Transformer
  | .header name value, _, r => addHeader name value r
  | .instanceId name, i, r => addHeader name i.id r
  | .metadata name key, i, r =>
    match i.metadata.get? key with
    | none => r
    | some value => addHeader name value r
  | .attempt name, _, r => addHeader name (toString r.attempt) r
  | .uri u, _, r => { r with uri := u }
  | .echoUri name, _, r => addHeader name r.uri.text r
  | .bodySuffix suffix, _, r => { r with body := r.body ++ suffix }

end Edit

/-- The pipeline of a list of edits. -/
def Pipeline.ofEdits (edits : List Edit) : Pipeline := ⟨edits.map Edit.toTransformer⟩

end Failover
