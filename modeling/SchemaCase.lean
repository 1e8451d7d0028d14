import SchemaCase.Main
import SchemaCase.Proofs.Source.Scanning
import SchemaCase.Proofs.Text.Words
import SchemaCase.Proofs.Schema.Header
import SchemaCase.Proofs.Schema.Braces
import SchemaCase.Proofs.Schema.Lines
import SchemaCase.Proofs.Schema.Grammar
import SchemaCase.Proofs.Source.Comment
import SchemaCase.Proofs.Schema.Classification
import SchemaCase.Proofs.Rename.Fields
import SchemaCase.Proofs.Rename.Changes
import SchemaCase.Proofs.Rename.Frame
import SchemaCase.Proofs.Schema.MapCalls
import SchemaCase.Proofs.Rename.Edits
import SchemaCase.Proofs.Rename.Rereading
import SchemaCase.Proofs.Rename.DatabaseNames
import SchemaCase.Proofs.Rename.Outcome
import SchemaCase.Proofs.Rename.DistinctNames
import SchemaCase.Proofs.Rename.Idempotence
import SchemaCase.Proofs.Rename.References
import SchemaCase.Proofs.Name.Case
import SchemaCase.Proofs.Rename.Conventions
import SchemaCase.Proofs.Rename.Totality
import SchemaCase.Proofs.Schema.SameCode
import SchemaCase.Proofs.Rename.Masking
import SchemaCase.Proofs.Layout.Columns
import SchemaCase.Proofs.Layout.EmptyLines
import SchemaCase.Proofs.Layout.Lines
import SchemaCase.Proofs.Layout.Body
import SchemaCase.Proofs.Layout.Outline
import SchemaCase.Proofs.Layout.Settled
import SchemaCase.Proofs.Layout.Formatting
import SchemaCase.Proofs.Layout.Idempotence
import SchemaCase.Proofs.Layout.Preservation
import SchemaCase.Proofs.Rename.Report
import SchemaCase.Proofs.Rename.BlockOperations
import SchemaCase.Proofs.Command.Newlines
import SchemaCase.Proofs.Command.Writing
import SchemaCase.Proofs.Text.Encoding
import SchemaCase.Proofs.Source.Position
import SchemaCase.Proofs.Schema.Refusal
import SchemaCase.Proofs.Schema.Parts
import SchemaCase.Proofs.Rename.Recording
import SchemaCase.Proofs.Rename.Capture
import SchemaCase.Proofs.Rename.Clashes
import SchemaCase.Proofs.Rename.LineEnds
import SchemaCase.Proofs.Layout.Canonical
import SchemaCase.Proofs.Source.Literals
import SchemaCase.Proofs.Layout.Literals
import SchemaCase.Proofs.Source.CodeItems
import SchemaCase.Proofs.Source.Projection
import SchemaCase.Proofs.Layout.Alignment
import SchemaCase.Proofs.Name.Replacement
import SchemaCase.Proofs.Source.LineGrammar
import SchemaCase.Proofs.Schema.CallArguments
