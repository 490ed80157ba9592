import Failover.Config.Basic
import Failover.Policy.Context
import Failover.Request

/-!
# Policies — whether and where a call is repeated

A policy answers the questions of a call: whether its method may be retried at all, whether there
is another attempt on the same or on a further instance, which outcomes are worth a retry, and how
long to wait.

* `Policy.never` retries nothing.
* `Policy.ofConfig?` follows a valid configuration.
* `Policy.counting` follows two bare budgets.
-/

namespace Failover

/-- The answers to a call's questions.  What a call has done so far stands in its context. -/
structure Policy where
  /-- Whether calls with a method are retried at all. -/
  admits : Method → Bool
  /-- Whether retries are on, whatever the method. -/
  enabled : Bool
  /-- Whether there is another attempt on the bound instance. -/
  allowsSame : Context → Bool
  /-- Whether the call may move on to another instance. -/
  allowsNext : Context → Bool
  retriesStatus : Status → Bool
  retriesFailure : Failure → Bool
  /-- The delay before the next attempt, drawn with a generator. -/
  delay : Context → Words → Duration × Words

namespace Policy

/-- The policy of a service for which nothing is set. -/
def never : Policy where
  admits _ := false
  enabled := false
  allowsSame _ := false
  allowsNext _ := false
  retriesStatus _ := false
  retriesFailure _ := false
  delay _ words := (.zero, words)

/-! ### From a configuration -/

/-- A test on failures that takes the place of the configured kinds. -/
abbrev Classifier := Failure → Bool

/-- A valid configuration, with the backoff that it describes and maybe a classifier. -/
structure Configured where
  config : RetryConfig
  backoff : Option Backoff
  classifier : Option Classifier
  valid : config.validate = .ok ()
  backoff_eq : config.backoff.toBackoff = .ok backoff

/-- Checks a configuration. -/
def Configured.of (config : RetryConfig) (classifier : Option Classifier) :
    Except ConfigError Configured :=
  match hv : config.validate with
  | .error e => .error e
  | .ok () =>
    match hb : config.backoff.toBackoff with
    | .error e => .error e
    | .ok backoff => .ok ⟨config, backoff, classifier, hv, hb⟩

/-- Whether a failure is worth a retry.  A cancellation never is; otherwise the classifier
decides, and without one the configured kinds. -/
def Configured.retriesFailure (c : Configured) (f : Failure) : Bool :=
  if f.kind = .cancelled then false
  else
    match c.classifier with
    | some test => test f
    | none => c.config.failures.contains f.kind

/-- The policy of a checked configuration.  The first retry of a call waits the first delay of
the backoff, and moving on to another instance does not start the delays anew. -/
def ofConfigured (c : Configured) : Policy where
  admits method := c.config.enabled && (c.config.allOperations || method.isSafe)
  enabled := c.config.enabled
  allowsSame ctx := ctx.sameAttempts < c.config.sameInstance.toNat
  allowsNext ctx := ctx.selections ≤ c.config.nextInstance.toNat
  retriesStatus status := c.config.statusCodes.toList.any (·.toNat == status.code)
  retriesFailure := c.retriesFailure
  delay ctx words :=
    match c.backoff with
    | some b => b.jittered ctx.attempts words
    | none => (.zero, words)

/-- A response is worth a retry exactly if its code is among those of the configuration. -/
theorem ofConfigured_retriesStatus_iff {c : Configured} {status : Status} :
    (ofConfigured c).retriesStatus status = true ↔
      status.code.toUInt16 ∈ c.config.statusCodes := by
  simp only [ofConfigured, List.any_eq_true, beq_iff_eq, OrderedSet.mem_def]
  constructor
  · rintro ⟨code, mem, same⟩
    obtain rfl : code = status.code.toUInt16 :=
      UInt16.toNat_inj.mp (by rw [same, status.toNat_code])
    exact mem
  · exact fun mem => ⟨_, mem, status.toNat_code⟩

/-- The policy of a configuration, if that is valid. -/
def ofConfig? (config : RetryConfig) (classifier : Option Classifier) :
    Except ConfigError Policy :=
  (Configured.of config classifier).map ofConfigured

/-- The policy that stands for a configuration where policies are kept: one that is switched off
retries nothing, and is not checked. -/
def ofEntry? (config : RetryConfig) : Except ConfigError Policy :=
  if config.enabled then ofConfig? config none else .ok never

/-! ### From two budgets -/

/-- A policy with nothing but budgets: every method but one is retried, so are server errors and
all failures, and there is no delay. -/
def counting (same next : Nat) : Policy where
  admits method := method.name != "BREW"
  enabled := true
  allowsSame ctx := ctx.sameAttempts < same
  allowsNext ctx := ctx.distinct ≤ next
  retriesStatus status := 500 ≤ status.code && status.code ≤ 599
  retriesFailure _ := true
  delay _ words := (.zero, words)

end Policy

end Failover
