/-!
# Log lines

A line names a level, the part of the library that wrote it, a message and named fields.
-/

namespace Failover

/-- How much a line matters. -/
inductive LogLevel where
  | debug | info | warn
deriving DecidableEq, Inhabited, Repr

/-- The level as it is written in front of a line. -/
def LogLevel.text : LogLevel → String
  | .debug => "DEBUG"
  | .info => "INFO"
  | .warn => "WARN"

/-- The parts of the library that write log lines. -/
inductive LogTarget where
  | interceptor | policy | rebind | retry | telemetry | transform
deriving DecidableEq, Inhabited, Repr

/-- The path of a part of the library. -/
def LogTarget.text : LogTarget → String
  | .interceptor => "balanced_retry::interceptor"
  | .policy => "balanced_retry::policy"
  | .rebind => "balanced_retry::rebind"
  | .retry => "balanced_retry::retry"
  | .telemetry => "balanced_retry::telemetry"
  | .transform => "balanced_retry::transform"

/-- A line of the log. -/
structure LogLine where
  level : LogLevel
  target : LogTarget
  message : String
  fields : List (String × String)
deriving DecidableEq, Inhabited, Repr

end Failover
