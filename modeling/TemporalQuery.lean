import TemporalQuery.Canonical
import TemporalQuery.CommandLine.Check
import TemporalQuery.CommandLine.Options
import TemporalQuery.CommandLine.Path
import TemporalQuery.CommandLine.Usage
import TemporalQuery.Debug
import TemporalQuery.Failure
import TemporalQuery.Json
import TemporalQuery.Lexeme
import TemporalQuery.Lexeme.FromEnd
import TemporalQuery.Listing
import TemporalQuery.Main
import TemporalQuery.Parse
import TemporalQuery.Position
import TemporalQuery.Proofs.Grammar
import TemporalQuery.Proofs.Reading.Completeness
import TemporalQuery.QueryFile
import TemporalQuery.Reading.Body
import TemporalQuery.Reading.State
import TemporalQuery.Recipe
import TemporalQuery.Report.Entry
import TemporalQuery.Report.Verbosity
import TemporalQuery.Session
import TemporalQuery.Syntax.Condition
import TemporalQuery.Syntax.Expr
import TemporalQuery.Syntax.Operator
import TemporalQuery.Syntax.Query
import TemporalQuery.Text.Blank
import TemporalQuery.Text.CaseTable
import TemporalQuery.Text.Digit
import TemporalQuery.Text.Hex
import TemporalQuery.Text.Integer
import TemporalQuery.Text.Line
import TemporalQuery.Text.Printable
import TemporalQuery.Text.Quoted
import TemporalQuery.Text.Range
import TemporalQuery.Text.Title
import TemporalQuery.Text.Utf8
import TemporalQuery.Token
import TemporalQuery.Transform.Dual
import TemporalQuery.Transform.Negate
import TemporalQuery.Transform.Simplify
import TemporalQuery.Tree
import TemporalQuery.Value
import TemporalQuery.Proofs.Reading.Soundness
import TemporalQuery.Proofs.Reading.Uniqueness
import TemporalQuery.Proofs.Lexing.Boundary
import TemporalQuery.Proofs.Reading.Acceptance
import TemporalQuery.Proofs.Lexing.Spelling
import TemporalQuery.Proofs.Canonical.ParseTree
import TemporalQuery.Proofs.Lexing.Output
import TemporalQuery.Proofs.Canonical.Heading
import TemporalQuery.Proofs.Canonical.RoundTrip
import TemporalQuery.Proofs.Semantics
import TemporalQuery.Proofs.Transform.Simplify
import TemporalQuery.Proofs.Transform.Duality
import TemporalQuery.Proofs.Transform.NormalForm
import TemporalQuery.Proofs.Canonical.Surface
import TemporalQuery.Proofs.Transform.Edits
import TemporalQuery.Proofs.Reading.Completion
import TemporalQuery.Proofs.Reading.Refusal
import TemporalQuery.Proofs.Reading.Viability
import TemporalQuery.Proofs.Lexing.Cut
import TemporalQuery.Proofs.Lexing.Segmentation
import TemporalQuery.Proofs.Lexing.Blanks
import TemporalQuery.Proofs.Lexing.LineCount
import TemporalQuery.Proofs.Checking
import TemporalQuery.Proofs.Reading.Location
import TemporalQuery.Proofs.Reading.FirstFailure
import TemporalQuery.Proofs.Reading.Relocation
import TemporalQuery.Proofs.Reading.Chaining
import TemporalQuery.Proofs.Canonical.Respelling
import TemporalQuery.Proofs.Building
import TemporalQuery.Proofs.Reading.Totality
import TemporalQuery.Proofs.Reading.Scope
import TemporalQuery.Proofs.Reading.Innermost
import TemporalQuery.Proofs.Canonical.Quotes
import TemporalQuery.Proofs.Reading.Synonyms
import TemporalQuery.Proofs.Transform.Irreducible
import TemporalQuery.Proofs.Transform.Grouping
import TemporalQuery.Proofs.Transform.Restoration
import TemporalQuery.Proofs.Transform.Removal
import TemporalQuery.Proofs.Occurrence
import TemporalQuery.Proofs.Position
import TemporalQuery.Proofs.Purity
import TemporalQuery.Proofs.Names
import TemporalQuery.Proofs.Export.Quoting
import TemporalQuery.Proofs.Export.Indented
import TemporalQuery.Proofs.Export.Faithful
import TemporalQuery.Proofs.Canonical.FirstWord
import TemporalQuery.Proofs.Canonical.Words
import TemporalQuery.Proofs.Transform.Refusal
import TemporalQuery.Proofs.Canonical.Inline
import TemporalQuery.Proofs.Lexing.Trimmed
import TemporalQuery.Proofs.Text.Lines
import TemporalQuery.Proofs.Text.Utf8
import TemporalQuery.Proofs.QueryFile
import TemporalQuery.Proofs.Verbosity
