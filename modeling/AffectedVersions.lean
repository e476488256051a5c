import AffectedVersions.CommandLine.Arguments
import AffectedVersions.CommandLine.Output
import AffectedVersions.CommandLine.Path
import AffectedVersions.Constraint.Clause
import AffectedVersions.Constraint.Parser
import AffectedVersions.Decimal
import AffectedVersions.Document.Advisory
import AffectedVersions.Document.File
import AffectedVersions.Document.Report
import AffectedVersions.Event.Basic
import AffectedVersions.Event.Token
import AffectedVersions.History
import AffectedVersions.Journal.Note
import AffectedVersions.Journal.Operations
import AffectedVersions.Json.Basic
import AffectedVersions.Json.Printer
import AffectedVersions.Json.Reader
import AffectedVersions.Layout
import AffectedVersions.Main
import AffectedVersions.Meaning
import AffectedVersions.Numeral
import AffectedVersions.Operation
import AffectedVersions.Proofs.CommandLine.Client
import AffectedVersions.Proofs.CommandLine.Documents
import AffectedVersions.Proofs.CommandLine.Output
import AffectedVersions.Proofs.Constraint.Bounds
import AffectedVersions.Proofs.Constraint.Clauses
import AffectedVersions.Proofs.Constraint.Cleanness
import AffectedVersions.Proofs.Constraint.Grammar
import AffectedVersions.Proofs.Constraint.Separator
import AffectedVersions.Proofs.Constraint.Spelling
import AffectedVersions.Proofs.Constraint.Splitting
import AffectedVersions.Proofs.Coverage.Canonical
import AffectedVersions.Proofs.Coverage.Mirror
import AffectedVersions.Proofs.Coverage.Order
import AffectedVersions.Proofs.Coverage.Separation
import AffectedVersions.Proofs.Coverage.Unaffected
import AffectedVersions.Proofs.Document.Advisory
import AffectedVersions.Proofs.Document.Ambiguity
import AffectedVersions.Proofs.Document.AssumedDefault
import AffectedVersions.Proofs.Document.Normalization
import AffectedVersions.Proofs.Document.Printing
import AffectedVersions.Proofs.Document.Reconstruction
import AffectedVersions.Proofs.Document.Reload
import AffectedVersions.Proofs.Document.Report
import AffectedVersions.Proofs.Document.Respelling
import AffectedVersions.Proofs.Document.Shape
import AffectedVersions.Proofs.Document.TacitStatus
import AffectedVersions.Proofs.Event.Token
import AffectedVersions.Proofs.Json.Numbers
import AffectedVersions.Proofs.Json.Path
import AffectedVersions.Proofs.Json.Printing
import AffectedVersions.Proofs.Json.Strings
import AffectedVersions.Proofs.Layout.Pairing
import AffectedVersions.Proofs.Schema.Acceptance
import AffectedVersions.Proofs.Schema.Details
import AffectedVersions.Proofs.Schema.Field
import AffectedVersions.Proofs.Schema.Respelling
import AffectedVersions.Proofs.SemVer.Order
import AffectedVersions.Proofs.SemVer.Text
import AffectedVersions.Proofs.Session.Adapter
import AffectedVersions.Proofs.Session.Opening
import AffectedVersions.Proofs.Settings.Source
import AffectedVersions.Proofs.Span.Constraint
import AffectedVersions.Proofs.Span.Ends
import AffectedVersions.Proofs.Span.Events
import AffectedVersions.Proofs.Span.Fault
import AffectedVersions.Proofs.Span.Gaps
import AffectedVersions.Proofs.Span.Isolation
import AffectedVersions.Proofs.Span.Order
import AffectedVersions.Proofs.Text.Pattern
import AffectedVersions.Proofs.Text.Plain
import AffectedVersions.Proofs.Text.Trim
import AffectedVersions.Proofs.Text.Utf8
import AffectedVersions.Proofs.Timeline.Check
import AffectedVersions.Proofs.Timeline.Ends
import AffectedVersions.Proofs.Timeline.Lint
import AffectedVersions.Proofs.Timeline.Meaning
import AffectedVersions.Proofs.Timeline.RoundTrip
import AffectedVersions.Proofs.Timeline.Spelling
import AffectedVersions.Proofs.Version.Order
import AffectedVersions.Proofs.Version.Plain
import AffectedVersions.Proofs.Version.SemVer
import AffectedVersions.Schema.Checked
import AffectedVersions.Schema.Field
import AffectedVersions.SemVer.Basic
import AffectedVersions.SemVer.Parser
import AffectedVersions.SemVer.Precedence
import AffectedVersions.Session
import AffectedVersions.Settings
import AffectedVersions.Span.Basic
import AffectedVersions.Span.Timeline
import AffectedVersions.Status
import AffectedVersions.Text.Blank
import AffectedVersions.Text.Cut
import AffectedVersions.Text.Hex
import AffectedVersions.Text.Label
import AffectedVersions.Text.Lines
import AffectedVersions.Text.Plain
import AffectedVersions.Text.Printable
import AffectedVersions.Text.Quoted
import AffectedVersions.Text.Utf8
import AffectedVersions.Timeline.Coverage
import AffectedVersions.Timeline.Lint
import AffectedVersions.Timeline.RoundTrip
import AffectedVersions.Version
