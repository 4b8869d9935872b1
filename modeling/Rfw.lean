import Rfw.Lib.Chunks
import Rfw.Lib.SortDedup
import Rfw.Lib.Table
import Rfw.Lib.Transition
import Rfw.Lib.RateLimit
import Rfw.Lib.Text
import Rfw.Lib.Decimal
import Rfw.Lib.Atomics
import Rfw.Lib.Json
import Rfw.Lib.JsonReads
import Rfw.Lib.Exposition
import Rfw.Lib.Utf8
import Rfw.Lib.Calendar
import Rfw.Lib.Gate
import Rfw.Lib.Race
import Rfw.Lib.Permits
import Rfw.Lib.CasGate
import Rfw.Net
import Rfw.Config.Forwarders
import Rfw.Config.Labels
import Rfw.Config.Settings
import Rfw.Config.Snapshot
import Rfw.Config.Load
import Rfw.Config.Clamping
import Rfw.Config.Syntax
import Rfw.Config.Expansion
import Rfw.Config.Grammar
import Rfw.Config.Precedence
import Rfw.Stats
import Rfw.Manager.Forwarders
import Rfw.Manager.Reload
import Rfw.Manager.Watcher
import Rfw.Manager.Sections
import Rfw.Manager.Sync
import Rfw.Manager.Shutdown
import Rfw.Manager.Identity
import Rfw.Monitor.Outage
import Rfw.Monitor.Tcp
import Rfw.Monitor.Verdicts
import Rfw.Notify.Event
import Rfw.Monitor.Udp
import Rfw.Monitor.Evidence
import Rfw.Monitor.DnsOutage
import Rfw.Monitor.Startup
import Rfw.Notify.Throttle
import Rfw.Notify.Pruning
import Rfw.Notify.Worker
import Rfw.Metrics.Escape
import Rfw.Notify.Text
import Rfw.Notify.Render
import Rfw.Notify.Lines
import Rfw.Notify.Calendar
import Rfw.Notify.Delivery
import Rfw.Metrics.Json
import Rfw.Metrics.Prometheus
import Rfw.Metrics.LabelValues
import Rfw.Metrics.Request
import Rfw.Metrics.Serve
import Rfw.Metrics.Health
import Rfw.Udp.Offload
import Rfw.Forwarder.Splice
import Rfw.Udp.Engine
import Rfw.Udp.Session
import Rfw.Udp.Forwarder
import Rfw.Udp.Sends
import Rfw.Udp.SendChunks
import Rfw.Udp.Upstream
import Rfw.Udp.Drains
import Rfw.Udp.Refine
import Rfw.Udp.Replies
import Rfw.Udp.Ownership
import Rfw.Udp.Fleet
import Rfw.Udp.Targets
import Rfw.Udp.Addresses
import Rfw.Udp.Moves
import Rfw.Udp.Stamps
import Rfw.Udp.Expiry
import Rfw.Udp.Boundaries
import Rfw.Forwarder.Bind
import Rfw.Forwarder.Racing
import Rfw.Forwarder.Accept
import Rfw.Forwarder.Accounts
import Rfw.Forwarder.Alerts
import Rfw.Forwarder.Serving
import Rfw.Forwarder.Drain
import Rfw.Forwarder.Copy
import Rfw.Forwarder.Fallback
import Rfw.Forwarder.Descriptors
