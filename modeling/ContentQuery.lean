import ContentQuery.Text.Utf8
import ContentQuery.Expression
import ContentQuery.Search
import ContentQuery.Timestamp.Reader
import ContentQuery.Database.Session
import ContentQuery.Toml.Reader
import ContentQuery.Settings.Loading
import ContentQuery.Settings.Saving
import ContentQuery.Terminal.Markup
import ContentQuery.Terminal.Width
import ContentQuery.Terminal.Table
import ContentQuery.Payload.Preview
import ContentQuery.Main
import ContentQuery.Proofs.Scan
import ContentQuery.Proofs.Breakdown
import ContentQuery.Proofs.OperationNames
import ContentQuery.Proofs.Words
import ContentQuery.Proofs.ConditionForm
import ContentQuery.Proofs.WrittenCondition
import ContentQuery.Proofs.Completion
import ContentQuery.Proofs.Fields
import ContentQuery.Proofs.Arrangement
import ContentQuery.Proofs.Kept
import ContentQuery.Proofs.Reference
import ContentQuery.Proofs.Confidentiality
import ContentQuery.Proofs.Runs
import ContentQuery.Proofs.Digits
import ContentQuery.Proofs.Rounding
import ContentQuery.Proofs.NumberText
import ContentQuery.Proofs.StringText
import ContentQuery.Proofs.JsonText
import ContentQuery.Proofs.JsonReading
import ContentQuery.Proofs.AcceptedSnapshot
import ContentQuery.Proofs.ImportedRows
import ContentQuery.Proofs.LoadedStore
import ContentQuery.Proofs.Lexemes
import ContentQuery.Proofs.Partition
import ContentQuery.Proofs.ConnectiveWord
import ContentQuery.Proofs.Layout
import ContentQuery.Proofs.Splitting
import ContentQuery.Proofs.Boundaries
import ContentQuery.Proofs.WrittenLiteral
import ContentQuery.Proofs.WrittenQuery
import ContentQuery.Proofs.Locations
import ContentQuery.Proofs.Sessions
import ContentQuery.Proofs.Transactions
import ContentQuery.Proofs.KeptRows
import ContentQuery.Proofs.LoadHistory
import ContentQuery.Proofs.LoadCommand
import ContentQuery.Proofs.PageTurning
import ContentQuery.Proofs.Nearest
import ContentQuery.Proofs.StoredForm
import ContentQuery.Proofs.Visibility
import ContentQuery.Proofs.Spelling
import ContentQuery.Proofs.NumberOrder
import ContentQuery.Proofs.ExactComparison
import ContentQuery.Proofs.Addresses
import ContentQuery.Proofs.Utf8Form
import ContentQuery.Proofs.ReportedSnapshot
import ContentQuery.Proofs.LoadableSnapshot
import ContentQuery.Proofs.CalendarDays
import ContentQuery.Proofs.DayCount
import ContentQuery.Proofs.WrittenTimestamp
import ContentQuery.Proofs.TimestampText
import ContentQuery.Proofs.Instants
import ContentQuery.Proofs.ColumnText
import ContentQuery.Proofs.ExportedDocument
import ContentQuery.Proofs.Joining
import ContentQuery.Proofs.Extension
import ContentQuery.Proofs.Directories
import ContentQuery.Proofs.FirstLoad
import ContentQuery.Proofs.TomlText
import ContentQuery.Proofs.TomlDocument
import ContentQuery.Proofs.SavedSettings
import ContentQuery.Proofs.Comparability
import ContentQuery.Proofs.PathJoining
import ContentQuery.Proofs.Membership
import ContentQuery.Proofs.Denial
import ContentQuery.Proofs.LetterCase
import ContentQuery.Proofs.PlainText
import ContentQuery.Proofs.Alternation
import ContentQuery.Proofs.StableOrder
import ContentQuery.Proofs.Pages
import ContentQuery.Proofs.Rejoining
import ContentQuery.Proofs.Scanning
import ContentQuery.Proofs.Obstacles
import ContentQuery.Proofs.ReportedSettings
import ContentQuery.Proofs.DisplayedLiteral
import ContentQuery.Proofs.ConfiguredSearch
