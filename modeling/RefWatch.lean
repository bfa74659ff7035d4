import RefWatch.Head.Reader
import RefWatch.HeadEvent
import RefWatch.Notification
import RefWatch.Metrics.Call
import RefWatch.Metrics.Exposition
import RefWatch.Scheduler
import RefWatch.Registry
import RefWatch.Listener.FanOut
import RefWatch.Dispatcher
import RefWatch.Settings.Reader
import RefWatch.Log.Line
import RefWatch.Service
import RefWatch.Proofs.Prefilter
import RefWatch.Proofs.Isolation
import RefWatch.Proofs.Clock
import RefWatch.Proofs.Moves
import RefWatch.Proofs.Calls
import RefWatch.Proofs.ExactlyOnce
import RefWatch.Proofs.Overlap
import RefWatch.Proofs.Tally
import RefWatch.Proofs.Sequential
import RefWatch.Proofs.Host
import RefWatch.Proofs.Accounting
import RefWatch.Proofs.Lifetime
import RefWatch.Proofs.Genuine
import RefWatch.Proofs.Endings
import RefWatch.Proofs.SameChange
import RefWatch.Proofs.Closing
import RefWatch.Proofs.Undisturbed
import RefWatch.Proofs.Gauge
import RefWatch.Proofs.Conservation
import RefWatch.Proofs.Answers
import RefWatch.Proofs.Aliases
import RefWatch.Proofs.Configuration
import RefWatch.Proofs.Encoding
import RefWatch.Proofs.Origin
import RefWatch.Proofs.Walk
import RefWatch.Proofs.Schema
import RefWatch.Proofs.FanOut
import RefWatch.Proofs.Description
import RefWatch.Proofs.Containment
import RefWatch.Proofs.Narrowing
import RefWatch.Proofs.KindHeader
import RefWatch.Proofs.LetterCase
import RefWatch.Proofs.Addresses
import RefWatch.Proofs.GlobLists
import RefWatch.Proofs.NamePatterns
import RefWatch.Proofs.Rereading
import RefWatch.Proofs.Calendar
import RefWatch.Proofs.TimestampText
import RefWatch.Proofs.Markers
import RefWatch.Proofs.EventIdentity
import RefWatch.Proofs.Interchange
import RefWatch.Proofs.LogContext
import RefWatch.Proofs.Sifting
