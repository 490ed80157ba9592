import Failover.Ordered.Map
import Failover.Ordered.Set
import Failover.Text.Quoted
import Failover.Decimal.Shortest
import Failover.Json.Parser
import Failover.Json.Printer
import Failover.Http.Header
import Failover.Http.Method
import Failover.Http.Status
import Failover.Uri.Parser
import Failover.Instance
import Failover.Request
import Failover.Pipeline
import Failover.Backoff.Basic
import Failover.Config.Basic
import Failover.Config.Reader
import Failover.Config.Writer
import Failover.Policy.Basic
import Failover.Policy.Classifier
import Failover.Policy.Registry
import Failover.Policy.Shared
import Failover.Balancer.Basic
import Failover.Balancer.Scripted
import Failover.Call.Once
import Failover.Call.Retry
import Failover.Call.Client
import Failover.Rebind.Basic
import Failover.Rebind.Script
import Failover.Inspect
import Failover.Proofs.Ordered
import Failover.Proofs.Decimal.WellFormed
import Failover.Proofs.Json.Literal
import Failover.Proofs.Json.RoundTrip
import Failover.Proofs.Uri.Scheme
import Failover.Proofs.Uri.Authority
import Failover.Proofs.Uri.Target
import Failover.Proofs.Uri.Address
import Failover.Proofs.Uri.Reread
import Failover.Proofs.Uri.Spelled
import Failover.Proofs.Pipeline.Edits
import Failover.Proofs.Backoff.Window
import Failover.Proofs.Backoff.Growth
import Failover.Proofs.Backoff.Jitter
import Failover.Proofs.Config.RoundTrip
import Failover.Proofs.Config.Wording
import Failover.Proofs.Config.Validity
import Failover.Proofs.Policy.Budget
import Failover.Proofs.Policy.Resolution
import Failover.Proofs.Policy.Sharing
import Failover.Proofs.Balancer.Operations
import Failover.Proofs.Balancer.Script
import Failover.Proofs.Call.Flat
import Failover.Proofs.Call.Raised
import Failover.Proofs.Call.Healthy
import Failover.Proofs.Call.Interrupt
import Failover.Proofs.Call.Account
import Failover.Proofs.Call.Final
import Failover.Proofs.Call.Distinct
import Failover.Proofs.Call.Pace
import Failover.Proofs.Call.Single
import Failover.Proofs.Call.Plain
import Failover.Proofs.Call.Bypass
import Failover.Proofs.Call.Effective
import Failover.Proofs.Call.Afresh
import Failover.Proofs.Call.Telemetry
import Failover.Proofs.Rebind.History
import Failover.Proofs.Rebind.Pass
