import Watchpost.Main
import Watchpost.Proofs.Instant
import Watchpost.Proofs.Tracker.Store
import Watchpost.Proofs.Tracker.Run
import Watchpost.Proofs.Tracker.Triggers
import Watchpost.Proofs.Tracker.Detection
import Watchpost.Proofs.Tracker.Eviction
import Watchpost.Proofs.Tracker.Counts
import Watchpost.Proofs.Engine.Isolation
import Watchpost.Proofs.Tracker.AnyOrder
import Watchpost.Proofs.Engine.Noninterference
import Watchpost.Proofs.Engine.Routing
import Watchpost.Proofs.EventLines
import Watchpost.Proofs.Worker.Lines
import Watchpost.Proofs.Worker.Shutdown
import Watchpost.Proofs.RuleLoad.Rejection
import Watchpost.Proofs.RuleLoad.Listing
import Watchpost.Proofs.Event
import Watchpost.Proofs.Rule.Serialization
import Watchpost.Proofs.Matching
import Watchpost.Proofs.Delivery.Webhook
import Watchpost.Proofs.Delivery.Dispatch
import Watchpost.Proofs.Environment
import Watchpost.Proofs.Path
import Watchpost.Proofs.Number.Decimal
import Watchpost.Proofs.RuleFile.Acceptance
import Watchpost.Proofs.Json.Escape
import Watchpost.Proofs.Number.Layout
import Watchpost.Proofs.Json.Compact
import Watchpost.Proofs.Tracker.Grouping
import Watchpost.Proofs.RuleLoad.Visibility
import Watchpost.Proofs.EventLines.Positions
import Watchpost.Proofs.Event.Lookup
import Watchpost.Proofs.Delivery.Request
import Watchpost.Proofs.Tracker.Sweep
import Watchpost.Proofs.Tracker.Snapshot
import Watchpost.Proofs.Json.Number
import Watchpost.Proofs.Json.Reading
import Watchpost.Proofs.Json.Form
import Watchpost.Proofs.Template.Escaping
