import Failover.Ordered.Map

/-!
# Instances — the concrete members of a logical service
-/

namespace Failover

/-- One member of a service: where it can be reached, and what is known about it. -/
structure Instance where
  service : String
  id : String
  host : String
  port : UInt16
  /-- Whether the instance may only be addressed over TLS. -/
  secure : Bool
  metadata : OrderedMap String String
deriving DecidableEq, Inhabited

namespace Instance

/-- The id of an instance that was given none: host and port, without brackets. -/
def defaultId (host : String) (port : UInt16) : String := host ++ ":" ++ toString port.toNat

/-- The host as it stands in an address: one with a colon in it gets brackets, unless it starts
with one. -/
def addressHost (host : String) : String :=
  if host.toList.contains ':' && host.toList.head? != some '[' then "[" ++ host ++ "]" else host

/-- The text under which the instance is addressed. -/
def authority (i : Instance) : String := addressHost i.host ++ ":" ++ toString i.port.toNat

/-- Whether two instances stand for one endpoint; service, security and metadata do not matter. -/
def sameEndpoint (i j : Instance) : Bool := i.id = j.id && i.host = j.host && i.port = j.port

/-- The instance as it is named in messages. -/
def text (i : Instance) : String := i.service ++ "[" ++ i.id ++ "]"

end Instance

end Failover
