import Transparency.Bytes
import Transparency.Certificate.Basic
import Transparency.Certificate.Element
import Transparency.Certificate.Time
import Transparency.Certificate.Timestamp
import Transparency.Chain.Basic
import Transparency.Chain.Process
import Transparency.Client.Basic
import Transparency.Client.Builder
import Transparency.Client.Execution
import Transparency.Command.Fetch
import Transparency.Command.Machine
import Transparency.Command.Options
import Transparency.Command.Preference
import Transparency.Command.Report
import Transparency.Command.Run
import Transparency.Debouncer
import Transparency.Decimal.Natural
import Transparency.Decimal.Shortest
import Transparency.Error
import Transparency.FileSystem
import Transparency.HostPolicy
import Transparency.Http.Fault
import Transparency.Http.Headers
import Transparency.Http.Message
import Transparency.Http.Status
import Transparency.Inspector
import Transparency.Interceptor
import Transparency.Journal
import Transparency.Json.Fault
import Transparency.Json.Number
import Transparency.Json.Skip
import Transparency.Json.Text
import Transparency.Main
import Transparency.Manager
import Transparency.Network
import Transparency.Outcome
import Transparency.Proofs.Chain.Edit
import Transparency.Proofs.Chain.Order
import Transparency.Proofs.Client.Enforcement
import Transparency.Proofs.Client.Watching
import Transparency.Proofs.Manager.Coherence
import Transparency.Proofs.Manager.Fleet
import Transparency.Proofs.Manager.Sharing
import Transparency.Proofs.Manager.Turn
import Transparency.Preferences.Document
import Transparency.Preferences.File
import Transparency.Text.CharTable
import Transparency.Text.CombiningClass
import Transparency.Text.Composition
import Transparency.Text.Normalization
import Transparency.Text.Quoted
import Transparency.Text.Unprintable
import Transparency.Text.Utf8
import Transparency.Url.Address
import Transparency.Url.Basic
import Transparency.Url.Domain
import Transparency.Url.Domain.Direction
import Transparency.Url.Domain.Joining
import Transparency.Url.Domain.Mapping
import Transparency.Url.Domain.Mark
import Transparency.Url.Host
import Transparency.Url.Parse
import Transparency.Url.Percent
import Transparency.Url.Punycode
import Transparency.Verifier
import Transparency.Proofs.Debouncer.Streak
import Transparency.Proofs.Manager.Construction
import Transparency.Proofs.Manager.Hearing
import Transparency.Proofs.Manager.Neighbours
import Transparency.Proofs.Manager.Ledger
import Transparency.Proofs.Client.Ending
import Transparency.Proofs.Client.Passes
import Transparency.Proofs.Client.Rebuilding
import Transparency.Proofs.Text.Utf8
import Transparency.Proofs.Json.Grammar
import Transparency.Proofs.Json.Token
import Transparency.Proofs.Json.Skipping
import Transparency.Proofs.Json.Object
import Transparency.Proofs.Preferences.Format
import Transparency.Proofs.FileSystem
import Transparency.Proofs.Preferences.File
import Transparency.Proofs.Client.Stepping
import Transparency.Proofs.Client.Interleaving
import Transparency.Proofs.Client.SharedDebouncer
import Transparency.Proofs.Chain.Place
import Transparency.Proofs.Chain.Composition
import Transparency.Proofs.Chain.Delays
import Transparency.Proofs.HostPolicy.Matching
import Transparency.Proofs.HostPolicy.Grammar
import Transparency.Proofs.HostPolicy.InForce
import Transparency.Proofs.Inspector
import Transparency.Proofs.Client.Frame
import Transparency.Proofs.Command.Options
import Transparency.Proofs.Command.Fetch
import Transparency.Proofs.Command.Agreement
import Transparency.Proofs.Client.Pairing
import Transparency.Proofs.Decimal.Natural
import Transparency.Proofs.Command.Grammar
import Transparency.Proofs.Preferences.Disk
import Transparency.Proofs.Preferences.History
import Transparency.Proofs.Command.Lines
import Transparency.Proofs.Reading
import Transparency.Proofs.Certificate.Element
import Transparency.Proofs.Certificate.Timestamp
import Transparency.Proofs.Certificate.Grammar
import Transparency.Proofs.Verifier
