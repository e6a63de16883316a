import PhraseFilter.Main
import PhraseFilter.Proofs.Pattern.Search
import PhraseFilter.Proofs.Scan.Conservation
import PhraseFilter.Proofs.Scan.Leftmost
import PhraseFilter.Proofs.Pattern.Language
import PhraseFilter.Proofs.Pattern.Reading
import PhraseFilter.Proofs.Pattern.Spelling
import PhraseFilter.Proofs.Pattern.Alternation
import PhraseFilter.Proofs.Pattern.Grouping
import PhraseFilter.Proofs.Pattern.Plain
import PhraseFilter.Proofs.Span.Layout
import PhraseFilter.Proofs.Span.Reading
import PhraseFilter.Proofs.Text.Decimal
import PhraseFilter.Proofs.Clause.Choice
import PhraseFilter.Proofs.Clause.Consistency
import PhraseFilter.Proofs.Clause.Precedence
import PhraseFilter.Proofs.Standard.Topic
import PhraseFilter.Proofs.Text.Joined
import PhraseFilter.Proofs.Text.Canonical
import PhraseFilter.Proofs.Span.Words
import PhraseFilter.Proofs.Standard.Language
import PhraseFilter.Proofs.Text.Blank
import PhraseFilter.Proofs.Text.Boundary
import PhraseFilter.Proofs.Standard.Soundness
import PhraseFilter.Proofs.Standard.First
import PhraseFilter.Proofs.Standard.Sequence
import PhraseFilter.Proofs.Filter.Composition
import PhraseFilter.Proofs.Standard.Records
import PhraseFilter.Proofs.Standard.Counted
import PhraseFilter.Proofs.Text.Split
import PhraseFilter.Proofs.Service.Address
import PhraseFilter.Proofs.Filter.Constants
import PhraseFilter.Proofs.Player.Basic
import PhraseFilter.Proofs.Player.Links
import PhraseFilter.Proofs.Player.Reference
import PhraseFilter.Proofs.Player.Accounts
import PhraseFilter.Proofs.Player.Grammar
import PhraseFilter.Proofs.Player.OrderedChoice
import PhraseFilter.Proofs.Player.Default
import PhraseFilter.Proofs.Player.Dependence
import PhraseFilter.Proofs.Service.Query
import PhraseFilter.Proofs.Standard.Constants
import PhraseFilter.Proofs.Record.Fields
import PhraseFilter.Proofs.Command.Requests
import PhraseFilter.Proofs.Settings.Precedence
import PhraseFilter.Proofs.Command.Spacing
import PhraseFilter.Proofs.Player.Page
import PhraseFilter.Proofs.Settings.Timeout
import PhraseFilter.Proofs.Filter.Unfiltered
import PhraseFilter.Proofs.Player.Session
import PhraseFilter.Proofs.Scan.Occurrence
import PhraseFilter.Proofs.Scan.Seam
import PhraseFilter.Proofs.Report.Calendar
import PhraseFilter.Proofs.Report.DateText
import PhraseFilter.Proofs.Report.MatchDate
import PhraseFilter.Proofs.Report.Column
import PhraseFilter.Proofs.Report.Table
import PhraseFilter.Proofs.Binary64.Nearest
import PhraseFilter.Proofs.Json.Number
import PhraseFilter.Proofs.Record.Truth
import PhraseFilter.Proofs.Json.Place
import PhraseFilter.Proofs.Service.Fetch
import PhraseFilter.Proofs.Pattern.Nesting
import PhraseFilter.Proofs.Clause.Acceptance
