import Phrasebook.Bindings
import Phrasebook.Command.Arguments
import Phrasebook.Command.Color
import Phrasebook.Command.Environment
import Phrasebook.Command.FileTree
import Phrasebook.Command.Files
import Phrasebook.Command.Invocation
import Phrasebook.Command.Output
import Phrasebook.Command.Results
import Phrasebook.Command.Run
import Phrasebook.Command.Table
import Phrasebook.ComposedKey
import Phrasebook.Coverage
import Phrasebook.Decimal.Binary
import Phrasebook.Decimal.Layout
import Phrasebook.Decimal.Shortest
import Phrasebook.Diagnostic
import Phrasebook.Dictionary.Basic
import Phrasebook.Dictionary.Inspection
import Phrasebook.Dictionary.Json
import Phrasebook.Dictionary.Lookup
import Phrasebook.Interpolation
import Phrasebook.Json.Fault
import Phrasebook.Json.Message
import Phrasebook.Json.Numeral
import Phrasebook.Json.Quoted
import Phrasebook.Json.Reader
import Phrasebook.Json.Token
import Phrasebook.Json.Value
import Phrasebook.Json.Writer
import Phrasebook.Lint
import Phrasebook.Main
import Phrasebook.Ordered
import Phrasebook.PluralForm
import Phrasebook.Proofs.Bindings.Layers
import Phrasebook.Proofs.Bindings.Reading
import Phrasebook.Proofs.Command.Parameters
import Phrasebook.Proofs.ComposedKey.Clauses
import Phrasebook.Proofs.ComposedKey.Notation
import Phrasebook.Proofs.ComposedKey.ShortestBase
import Phrasebook.Proofs.Coverage.Figures
import Phrasebook.Proofs.Coverage.Resolution
import Phrasebook.Proofs.Diagnostic.Places
import Phrasebook.Proofs.Dictionary.Equality
import Phrasebook.Proofs.Dictionary.Levels
import Phrasebook.Proofs.Dictionary.Paths
import Phrasebook.Proofs.Dictionary.Places
import Phrasebook.Proofs.Dictionary.RoundTrip
import Phrasebook.Proofs.Dictionary.Routes
import Phrasebook.Proofs.Dictionary.Updates
import Phrasebook.Proofs.Dictionary.Values
import Phrasebook.Proofs.Interpolation.Neutral
import Phrasebook.Proofs.Interpolation.Placeholder
import Phrasebook.Proofs.Interpolation.Recursion
import Phrasebook.Proofs.Interpolation.Reference
import Phrasebook.Proofs.Interpolation.Simultaneous
import Phrasebook.Proofs.Interpolation.Skeleton
import Phrasebook.Proofs.Json.Admission
import Phrasebook.Proofs.Json.Equality
import Phrasebook.Proofs.Json.Lexemes
import Phrasebook.Proofs.Json.Members
import Phrasebook.Proofs.Json.RoundTrip
import Phrasebook.Proofs.Lint.CleanTemplates
import Phrasebook.Proofs.Lint.DeadEntries
import Phrasebook.Proofs.Lint.DeadForms
import Phrasebook.Proofs.Lint.Segments
import Phrasebook.Proofs.Lint.Structure
import Phrasebook.Proofs.PluralForm.Grammar
import Phrasebook.Proofs.PluralForm.Rearrangement
import Phrasebook.Proofs.PluralForm.Selection
import Phrasebook.Proofs.Session.History
import Phrasebook.Proofs.Session.Independence
import Phrasebook.Proofs.Suggestion.Hints
import Phrasebook.Proofs.Suggestion.Ranking
import Phrasebook.Proofs.Text.Bytes
import Phrasebook.Proofs.Text.Digits
import Phrasebook.Proofs.Text.EditDistance
import Phrasebook.Proofs.Text.Parts
import Phrasebook.Proofs.Text.Spelling
import Phrasebook.Proofs.Translation.Agreement
import Phrasebook.Proofs.Translation.Counts
import Phrasebook.Proofs.Translation.Fallbacks
import Phrasebook.Proofs.Translation.Unwrapping
import Phrasebook.Session
import Phrasebook.Suggestion
import Phrasebook.Text.Blank
import Phrasebook.Text.EditDistance
import Phrasebook.Text.Integer
import Phrasebook.Text.Literal
import Phrasebook.Text.Properties
import Phrasebook.Text.Segments
import Phrasebook.Text.Width.Emoji
import Phrasebook.Text.Width.Sequence
import Phrasebook.Text.Width.Single
import Phrasebook.Translation
import Phrasebook.Value
