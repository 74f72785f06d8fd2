import PollRoster.Action
import PollRoster.Assigning
import PollRoster.Availability
import PollRoster.Bounds
import PollRoster.Building
import PollRoster.Bulk
import PollRoster.Conflicts
import PollRoster.Counters
import PollRoster.Database
import PollRoster.Database.ColumnValue
import PollRoster.Database.Error
import PollRoster.Database.Overwrite
import PollRoster.Database.Repository
import PollRoster.Database.Row
import PollRoster.Database.Seeding
import PollRoster.Decimal
import PollRoster.Engine
import PollRoster.Event
import PollRoster.Hierarchy
import PollRoster.Http.Authority
import PollRoster.Http.MediaType
import PollRoster.Http.Response
import PollRoster.Http.Route
import PollRoster.Http.Target
import PollRoster.Json.Decode
import PollRoster.Json.Reader
import PollRoster.Json.Token
import PollRoster.Json.Value
import PollRoster.Json.Writer
import PollRoster.Navigator
import PollRoster.Navigator.InPlace
import PollRoster.OperationError
import PollRoster.Positions
import PollRoster.Order
import PollRoster.Preference
import PollRoster.Program
import PollRoster.Proofs.Acceptance
import PollRoster.Proofs.Actions
import PollRoster.Proofs.AnyOrder
import PollRoster.Proofs.Appointing
import PollRoster.Proofs.Ascent
import PollRoster.Proofs.Assigning
import PollRoster.Proofs.Availability
import PollRoster.Proofs.BackEnds
import PollRoster.Proofs.Batch
import PollRoster.Proofs.Breadcrumbs
import PollRoster.Proofs.Charting
import PollRoster.Proofs.Chronicle
import PollRoster.Proofs.Coherence
import PollRoster.Proofs.Committing
import PollRoster.Proofs.Conflicts
import PollRoster.Proofs.Counters
import PollRoster.Proofs.Counting
import PollRoster.Proofs.Database.Admission
import PollRoster.Proofs.Database.Calls
import PollRoster.Proofs.Database.Integrity
import PollRoster.Proofs.Database.Keeping
import PollRoster.Proofs.Database.Loading
import PollRoster.Proofs.Database.Reachable
import PollRoster.Proofs.Database.Restoring
import PollRoster.Proofs.Descent
import PollRoster.Proofs.Engine
import PollRoster.Proofs.Errands
import PollRoster.Proofs.Failure
import PollRoster.Proofs.Finding
import PollRoster.Proofs.Fixture
import PollRoster.Proofs.Following
import PollRoster.Proofs.Foretelling
import PollRoster.Proofs.Freshness
import PollRoster.Proofs.Grouping
import PollRoster.Proofs.Hosting
import PollRoster.Proofs.Http
import PollRoster.Proofs.InPlace
import PollRoster.Proofs.Invalidation
import PollRoster.Proofs.Journal
import PollRoster.Proofs.Ledger
import PollRoster.Proofs.LetterCase
import PollRoster.Proofs.LifeCycle
import PollRoster.Proofs.Linearization
import PollRoster.Proofs.Links
import PollRoster.Proofs.Listing
import PollRoster.Proofs.LostOccupant
import PollRoster.Proofs.Mentions
import PollRoster.Proofs.Narrowing
import PollRoster.Proofs.Navigator
import PollRoster.Proofs.Office
import PollRoster.Proofs.Order
import PollRoster.Proofs.Paths
import PollRoster.Proofs.Positions
import PollRoster.Proofs.Preference
import PollRoster.Proofs.Program
import PollRoster.Proofs.Progress
import PollRoster.Proofs.Race
import PollRoster.Proofs.Reading
import PollRoster.Proofs.Relisting
import PollRoster.Proofs.Remembering
import PollRoster.Proofs.Report
import PollRoster.Proofs.Resolution
import PollRoster.Proofs.Resuming
import PollRoster.Proofs.Return
import PollRoster.Proofs.Rows
import PollRoster.Proofs.Search
import PollRoster.Proofs.Service
import PollRoster.Proofs.Session
import PollRoster.Proofs.Singles
import PollRoster.Proofs.Slots
import PollRoster.Proofs.Store
import PollRoster.Proofs.Territory
import PollRoster.Proofs.Totals
import PollRoster.Proofs.Validation
import PollRoster.Proofs.Wishes
import PollRoster.Records
import PollRoster.ReferenceData
import PollRoster.Repository
import PollRoster.Repository.Ledger
import PollRoster.Repository.Unreliable
import PollRoster.Role
import PollRoster.RuleError
import PollRoster.Scope
import PollRoster.Selection
import PollRoster.Service
import PollRoster.Service.Error
import PollRoster.Slots
import PollRoster.Snapshot
import PollRoster.Territory
import PollRoster.Text.Blank
import PollRoster.Text.CaseTable
import PollRoster.Text.DecimalDigit
import PollRoster.Text.Infix
import PollRoster.Text.LetterCase
import PollRoster.Text.Numeral
import PollRoster.Text.Utf8
import PollRoster.Validation
import PollRoster.View
import PollRoster.Wire.Records
import PollRoster.Wire.Service
import PollRoster.Wire.Views
import PollRoster.Proofs.Indexing
import PollRoster.Proofs.Filing
import PollRoster.Proofs.Json.Bytes
import PollRoster.Proofs.Json.Members
import PollRoster.Proofs.Json.Reading
import PollRoster.Proofs.Json.Writing
import PollRoster.Proofs.Malformed
import PollRoster.Proofs.RoundTrip
