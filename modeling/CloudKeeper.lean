import CloudKeeper.Backoff
import CloudKeeper.CommandLine
import CloudKeeper.Config
import CloudKeeper.Credentials
import CloudKeeper.Cycle.Engine
import CloudKeeper.Cycle.Identity
import CloudKeeper.Cycle.Program
import CloudKeeper.Cycle.Reconcile
import CloudKeeper.Decimal.Digits
import CloudKeeper.Decimal.Shortest
import CloudKeeper.Error
import CloudKeeper.Http.Exchange
import CloudKeeper.Http.Form
import CloudKeeper.Http.Message
import CloudKeeper.Http.Url
import CloudKeeper.Json.Decoder
import CloudKeeper.Json.Document
import CloudKeeper.Json.Number
import CloudKeeper.Json.Printer
import CloudKeeper.Json.Token
import CloudKeeper.Json.Value
import CloudKeeper.Kind.Family
import CloudKeeper.Kind.FloatingIp
import CloudKeeper.Kind.Service
import CloudKeeper.Kind.VirtualMachine
import CloudKeeper.Kind.Volume
import CloudKeeper.Live.Clock
import CloudKeeper.Live.Files
import CloudKeeper.Live.Site
import CloudKeeper.Live.Transport
import CloudKeeper.Locks
import CloudKeeper.Main
import CloudKeeper.Manifest.Basic
import CloudKeeper.Manifest.Feeder
import CloudKeeper.Manifest.Sync
import CloudKeeper.Object.Condition
import CloudKeeper.Object.Declared
import CloudKeeper.Object.Key
import CloudKeeper.Proofs.Cycle.Afterlife
import CloudKeeper.Proofs.Cycle.Commutation
import CloudKeeper.Proofs.Cycle.Course
import CloudKeeper.Proofs.Cycle.Custody
import CloudKeeper.Proofs.Cycle.Discipline
import CloudKeeper.Proofs.Cycle.EmptyIds
import CloudKeeper.Proofs.Cycle.Exclusion
import CloudKeeper.Proofs.Cycle.Failure
import CloudKeeper.Proofs.Cycle.Forgetting
import CloudKeeper.Proofs.Cycle.Healing
import CloudKeeper.Proofs.Cycle.Indifference
import CloudKeeper.Proofs.Cycle.Knowledge
import CloudKeeper.Proofs.Cycle.Locality
import CloudKeeper.Proofs.Cycle.Lockstep
import CloudKeeper.Proofs.Cycle.Nameless
import CloudKeeper.Proofs.Cycle.Ownership
import CloudKeeper.Proofs.Cycle.Paths
import CloudKeeper.Proofs.Cycle.Redeclaration
import CloudKeeper.Proofs.Cycle.Requeue
import CloudKeeper.Proofs.Cycle.Run
import CloudKeeper.Proofs.Cycle.Solo
import CloudKeeper.Proofs.Cycle.Wanted
import CloudKeeper.Proofs.Decimal
import CloudKeeper.Proofs.Http.Escape
import CloudKeeper.Proofs.Http.Form
import CloudKeeper.Proofs.Http.Url
import CloudKeeper.Proofs.Json.Decoding
import CloudKeeper.Proofs.Json.Lexing
import CloudKeeper.Proofs.Json.Members
import CloudKeeper.Proofs.Json.Missing
import CloudKeeper.Proofs.Json.Reading
import CloudKeeper.Proofs.Json.Regular
import CloudKeeper.Proofs.Kind.Absence
import CloudKeeper.Proofs.Kind.Bodies
import CloudKeeper.Proofs.Kind.Distinction
import CloudKeeper.Proofs.Kind.Drift
import CloudKeeper.Proofs.Kind.Format
import CloudKeeper.Proofs.Kind.Naming
import CloudKeeper.Proofs.Kind.Nulls
import CloudKeeper.Proofs.Kind.Reach
import CloudKeeper.Proofs.Kind.Removal
import CloudKeeper.Proofs.Kind.Scope
import CloudKeeper.Proofs.Locks
import CloudKeeper.Proofs.Manifest.Alignment
import CloudKeeper.Proofs.Manifest.Feeding
import CloudKeeper.Proofs.Manifest.Names
import CloudKeeper.Proofs.Object.Condition
import CloudKeeper.Proofs.Object.Format
import CloudKeeper.Proofs.Object.Transitions
import CloudKeeper.Proofs.Scheduler.Controller
import CloudKeeper.Proofs.Scheduler.Coverage
import CloudKeeper.Proofs.Scheduler.Crossing
import CloudKeeper.Proofs.Scheduler.Deadline
import CloudKeeper.Proofs.Scheduler.Delay
import CloudKeeper.Proofs.Scheduler.Following
import CloudKeeper.Proofs.Scheduler.HandOut
import CloudKeeper.Proofs.Scheduler.Pace
import CloudKeeper.Proofs.Scheduler.Parking
import CloudKeeper.Proofs.Scheduler.Queue
import CloudKeeper.Proofs.Scheduler.Retry
import CloudKeeper.Proofs.Scheduler.Turn
import CloudKeeper.Proofs.Scheduler.Window
import CloudKeeper.Proofs.SortedMap
import CloudKeeper.Proofs.Store.Agreement
import CloudKeeper.Proofs.Store.Announcement
import CloudKeeper.Proofs.Store.Durability
import CloudKeeper.Proofs.Store.Effect
import CloudKeeper.Proofs.Store.Intent
import CloudKeeper.Proofs.Store.RoundTrip
import CloudKeeper.Proofs.Store.View
import CloudKeeper.Proofs.Store.WriteOnce
import CloudKeeper.Proofs.Text.Utf8
import CloudKeeper.Proofs.Time.Timestamp
import CloudKeeper.Proofs.Volume.Foreign
import CloudKeeper.Proofs.Volume.Lookup
import CloudKeeper.Proofs.Volume.Plant
import CloudKeeper.Proofs.Volume.Site
import CloudKeeper.Proofs.Volume.Tag
import CloudKeeper.Proofs.Volume.Tracking
import CloudKeeper.Proofs.Volume.Uniqueness
import CloudKeeper.Provider
import CloudKeeper.Queue
import CloudKeeper.Remote
import CloudKeeper.Scheduler
import CloudKeeper.Simulation.Bench
import CloudKeeper.Simulation.Disk
import CloudKeeper.Simulation.FeederRun
import CloudKeeper.Simulation.Files
import CloudKeeper.Simulation.Line
import CloudKeeper.Simulation.ProviderRun
import CloudKeeper.Simulation.QueueRun
import CloudKeeper.Simulation.SchedulerRun
import CloudKeeper.Simulation.StoreRun
import CloudKeeper.Simulation.World
import CloudKeeper.SortedMap
import CloudKeeper.Store.Basic
import CloudKeeper.Store.Event
import CloudKeeper.Store.Snapshot
import CloudKeeper.Text.Blank
import CloudKeeper.Text.Path
import CloudKeeper.Text.Pieces
import CloudKeeper.Text.Printable
import CloudKeeper.Text.Quoted
import CloudKeeper.Text.Tamed
import CloudKeeper.Text.Utf8
import CloudKeeper.Time.Duration
import CloudKeeper.Time.Epoch
import CloudKeeper.Time.Instant
import CloudKeeper.Time.Timestamp
