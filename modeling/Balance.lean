import Balance.Machine.Run
import Balance.Machine.Threads
import Balance.Machine.Custody
import Balance.Machine.Errands
import Balance.Machine.Covers
import Balance.Machine.Tally
import Balance.Machine.Progress
import Balance.Machine.Account
import Balance.Machine.Recent
import Balance.Machine.Turns
import Balance.Machine.Ticker
import Balance.Machine.Gather
import Balance.Machine.History
import Balance.Machine.Answers
import Balance.Go.Time
import Balance.Go.Collections
import Balance.Go.Tables
import Balance.Go.Format
import Balance.Go.Clockwise
import Balance.Go.HashRing
import Balance.Go.Checked
import Balance.Go.Order
import Balance.Go.Ranging
import Balance.Go.Bits
import Balance.Backend.Backend
import Balance.Backend.State
import Balance.Backend.Hysteresis
import Balance.Backend.Draining
import Balance.Backend.StateRace
import Balance.Health.Passive
import Balance.Health.FailureHistory
import Balance.Health.Checker
import Balance.Health.Active
import Balance.Health.Registry
import Balance.Health.Recovery
import Balance.Health.Isolation
import Balance.Health.Detection
import Balance.Proxy.Header
import Balance.Lb.Consistent
import Balance.Lb.Successor
import Balance.Lb.RingCache
import Balance.Lb.Disruption
import Balance.Lb.Balancers
import Balance.Lb.Rotation
import Balance.Lb.Greedy
import Balance.Lb.BoundedLoad
import Balance.Lb.Affinity
import Balance.Lb.AffinityRace
import Balance.Lb.Stickiness
import Balance.Resilience.Circuit
import Balance.Resilience.FailureCount
import Balance.Resilience.CircuitTraffic
import Balance.Resilience.HalfOpen
import Balance.Resilience.OpenPeriod
import Balance.Resilience.Probes
import Balance.Resilience.CircuitRace
import Balance.Resilience.Retry
import Balance.Resilience.RetryOutcome
import Balance.Resilience.RetryContext
import Balance.Resilience.RetryBudget
import Balance.Resilience.Deadline
import Balance.Pool.Connection
import Balance.Pool.Custody
import Balance.Pool.Leak
import Balance.Pool.SlotCount
import Balance.Pool.Bounds
import Balance.Pool.Shutdown
import Balance.Pool.IdleCleanup
import Balance.Pool.Goroutine
import Balance.Pool.Submission
import Balance.Pool.Stranding
import Balance.Pool.Completion
import Balance.Pool.Workers
import Balance.Pool.Handover
import Balance.Pool.Statistics
import Balance.Pool.ByteSlices
import Balance.Pool.BufferPool
import Balance.Config.Config
import Balance.Security.RateLimit
import Balance.Security.RateBound
import Balance.Security.RateExact
import Balance.Security.Protection
import Balance.Security.GuardBound
import Balance.Security.ActiveCount
import Balance.Security.SlidingWindow
import Balance.Security.WindowBound
import Balance.Security.WindowExact
import Balance.Security.Blocklist
import Balance.Security.BlockHistory
import Balance.Security.Combined
import Balance.Proxy.Request
import Balance.Proxy.Server
import Balance.Proxy.Forwarding
import Balance.Proxy.Readmission
import Balance.Proxy.Blame
import Balance.Proxy.ZeroCopy
import Balance.Proxy.Relay
import Balance.Proxy.Serving
import Balance.Proxy.AcceptLoop
import Balance.Proxy.GracefulShutdown
import Balance.Tls.Termination
import Balance.Tls.Accepting
import Balance.Tls.Delivery
import Balance.Tls.LostConnections
import Balance.Tls.CertManager
import Balance.Tls.Expiry
import Balance.Tls.ParseSni
import Balance.Tls.ClientHello
import Balance.Tls.Nesting
import Balance.Tls.Sni
import Balance.Transform.Headers
import Balance.Transform.Normalize
import Balance.Transform.Forwarded
import Balance.Transform.Rewriting
import Balance.Router.Router
import Balance.Xds.Snapshots
import Balance.Optimize.StringIntern
import Balance.Logging.Recording
import Balance.Logging.Logger
import Balance.Logging.Access
