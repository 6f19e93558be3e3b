import SqlFormula.Aggregate
import SqlFormula.Main
import SqlFormula.Typed.Catalogue
import SqlFormula.Typed.Decode
import SqlFormula.Typed.Encode
import SqlFormula.Proofs.Number.Binary64
import SqlFormula.Proofs.Number.Numeral
import SqlFormula.Proofs.Number.Rounding
import SqlFormula.Proofs.Number.Shortest
import SqlFormula.Proofs.Number.ReadBack
import SqlFormula.Proofs.Reader
import SqlFormula.Proofs.Text.Base64
import SqlFormula.Proofs.Text.Letter
import SqlFormula.Proofs.PortableText.Parts
import SqlFormula.Proofs.Value
import SqlFormula.Proofs.Entries
import SqlFormula.Proofs.PortableText.RoundTrip
import SqlFormula.Proofs.Calendar
import SqlFormula.Proofs.Instant.ReadBack
import SqlFormula.Proofs.Instant.Codecs
import SqlFormula.Proofs.Typed.Assembly
import SqlFormula.Proofs.Typed.History
import SqlFormula.Proofs.Typed.Translation
import SqlFormula.Proofs.Typed.Construction
import SqlFormula.Proofs.Typed.Encoding
import SqlFormula.Proofs.Instant.Relaxed
import SqlFormula.Proofs.Typed.Parts
import SqlFormula.Proofs.Typed.Restoring
import SqlFormula.Proofs.Typed.TaggedValue
import SqlFormula.Proofs.Number.Single
import SqlFormula.Proofs.Typed.Normal
import SqlFormula.Proofs.Typed.NormalForm
import SqlFormula.Proofs.Token.Piece
import SqlFormula.Proofs.Parse.Takes
import SqlFormula.Proofs.Parse.Printing
import SqlFormula.Proofs.Syntax.Nodes
import SqlFormula.Proofs.Syntax.Height
import SqlFormula.Proofs.Parse.Operand
import SqlFormula.Proofs.Parse.Continuation
import SqlFormula.Proofs.Parse.ReadBack
import SqlFormula.Proofs.Parse.Results
import SqlFormula.Proofs.Parse.Invariants
import SqlFormula.Proofs.Parse.HeightBound
import SqlFormula.Proofs.Parse.WellFormed
import SqlFormula.Proofs.Token.Joining
import SqlFormula.Proofs.Parse.Alongside.Basic
import SqlFormula.Proofs.Parse.Alongside.Expression
import SqlFormula.Proofs.Parse.Alongside.Statement
import SqlFormula.Proofs.Parse.Batch
import SqlFormula.Proofs.Parse.Modes
import SqlFormula.Proofs.Eval.Fields
import SqlFormula.Proofs.Number.Comparison
import SqlFormula.Proofs.Text.ByteOrder
import SqlFormula.Proofs.Value.Comparison
import SqlFormula.Proofs.Value.Transitivity
import SqlFormula.Proofs.Regex.Spans
import SqlFormula.Proofs.Regex.Wildcard
import SqlFormula.Proofs.Regex.Class
import SqlFormula.Proofs.Regex.Reading
import SqlFormula.Proofs.Eval.PatternOperators
import SqlFormula.Proofs.Aggregate.Run
import SqlFormula.Proofs.Aggregate.RowOrder
import SqlFormula.Proofs.Token.Places
import SqlFormula.Proofs.PortableText.Truncation
import SqlFormula.Proofs.Json
import SqlFormula.Proofs.PortableText.Documents
import SqlFormula.Proofs.Parse.Chain
import SqlFormula.Proofs.Eval.Failures
import SqlFormula.Proofs.Eval.Dispatch
import SqlFormula.Proofs.Typed.Session
import SqlFormula.Proofs.Typed.References
import SqlFormula.Proofs.Typed.Confinement
import SqlFormula.Proofs.Typed.FailedCalls
import SqlFormula.Proofs.Eval.Substring
import SqlFormula.Proofs.Number.Exact
import SqlFormula.Proofs.Value.ExactOrder
import SqlFormula.Proofs.Instant.Display
import SqlFormula.Proofs.Outcome
import SqlFormula.Proofs.Value.Logic
import SqlFormula.Proofs.Eval.Operands
import SqlFormula.Proofs.Eval.Abbreviations
import SqlFormula.Proofs.Eval.Grouping
import SqlFormula.Proofs.Eval.Membership
import SqlFormula.Proofs.Eval.Conditionals
import SqlFormula.Proofs.Aggregate.ExactSum
import SqlFormula.Proofs.Typed.Stopping
import SqlFormula.Proofs.Typed.Refusals
import SqlFormula.Proofs.Value.Whole
import SqlFormula.Proofs.Value.Arithmetic
import SqlFormula.Proofs.Eval.Casts
import SqlFormula.Proofs.Number.Whole
import SqlFormula.Proofs.Value.FloatText
import SqlFormula.Proofs.Typed.Defaults
import SqlFormula.Proofs.Text.Parts
import SqlFormula.Proofs.Eval.Terms
import SqlFormula.Proofs.Eval.Occurrences
import SqlFormula.Proofs.Aggregate.Extremes
import SqlFormula.Proofs.Aggregate.Refusals
import SqlFormula.Proofs.Parse.ErrorPlaces
import SqlFormula.Proofs.Token.Spelling
import SqlFormula.Proofs.Parse.Paths
import SqlFormula.Proofs.Eval.Modifiers
import SqlFormula.Proofs.Value.Numerals
import SqlFormula.Proofs.Parse.Exchange.Basic
import SqlFormula.Proofs.Parse.Exchange.Expression
import SqlFormula.Proofs.PortableText.Machine
import SqlFormula.Proofs.PortableText.Simulation
import SqlFormula.Proofs.PortableText.Safety
