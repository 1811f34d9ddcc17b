import ServiceWatch.Observer.Layer
import ServiceWatch.Tracker.Run
import ServiceWatch.World.Script
import ServiceWatch.Session
import ServiceWatch.Bench.Handles
import ServiceWatch.Bench.Offerings
import ServiceWatch.Bench.Values
import ServiceWatch.Service.Ranking
import ServiceWatch.World.Modular
import ServiceWatch.Watch
import ServiceWatch.Proofs.Tracker.Lifecycle
import ServiceWatch.Decimal.Binary64
import ServiceWatch.Decimal.Shortest
import ServiceWatch.Toml.Blank
import ServiceWatch.Toml.Quote
import ServiceWatch.Toml.Value
import ServiceWatch.Toml.Calendar
import ServiceWatch.Toml.Document
import ServiceWatch.Config.File
import ServiceWatch.Proofs.Toml.Standard
import ServiceWatch.Proofs.Toml.Record
import ServiceWatch.Proofs.Tracker.Answers
import ServiceWatch.Proofs.Tracker.Capacity
import ServiceWatch.Proofs.Watch.Release
import ServiceWatch.Delivery
import ServiceWatch.Proofs.Delivery.Convergence
import ServiceWatch.Proofs.Tracker.History
import ServiceWatch.Proofs.Tracker.Separation
import ServiceWatch.Crew
import ServiceWatch.Proofs.Crew.Isolation
import ServiceWatch.Proofs.Toml.Number
import ServiceWatch.Proofs.Toml.Fits
import ServiceWatch.Proofs.Toml.Line
import ServiceWatch.Proofs.Config.Fields
import ServiceWatch.Proofs.Config.RoundTrip
import ServiceWatch.Proofs.Tracker.Invariant
import ServiceWatch.Proofs.Observer.Tower
import ServiceWatch.Proofs.Tracker.Transparency
import ServiceWatch.Proofs.Watch.Snapshot
import ServiceWatch.Proofs.Tracker.Settings
import ServiceWatch.Proofs.Tracker.Eagerness
import ServiceWatch.Proofs.Tracker.Bound
import ServiceWatch.Registry.Run
import ServiceWatch.Proofs.Registry.Bookkeeping
import ServiceWatch.Proofs.Text.Bytes
import ServiceWatch.Proofs.Offering.History
import ServiceWatch.Proofs.Tracker.Closing
import ServiceWatch.Proofs.Service.Preference
import ServiceWatch.Proofs.Tracker.Highest
import ServiceWatch.Proofs.Offering.Identity
import ServiceWatch.Proofs.Toml.Draft
import ServiceWatch.Proofs.Service.Order
import ServiceWatch.Proofs.Tracker.Report
