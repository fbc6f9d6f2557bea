import SyntaxExport.Encoder.Trace
import SyntaxExport.Main
import SyntaxExport.Proofs.Json.Reading
import SyntaxExport.Proofs.Preorder
import SyntaxExport.Text.Comment
import SyntaxExport.Text.Summary
import SyntaxExport.Proofs.Json.Document
import SyntaxExport.Proofs.Numbering
import SyntaxExport.Proofs.Graph
import SyntaxExport.Proofs.SlotNames
import SyntaxExport.Proofs.Scope
import SyntaxExport.Proofs.FileTree
import SyntaxExport.Proofs.Batch
import SyntaxExport.Proofs.Condensed
import SyntaxExport.Proofs.Json.Lossless
import SyntaxExport.Proofs.Retracing
import SyntaxExport.Proofs.Summary
import SyntaxExport.Proofs.Picture
import SyntaxExport.Proofs.Drawing
import SyntaxExport.Proofs.ByteOrder
import SyntaxExport.Proofs.GraphMarkup
import SyntaxExport.Proofs.GraphFormats
import SyntaxExport.Proofs.Entities
import SyntaxExport.Proofs.Tags
import SyntaxExport.Proofs.Outline
import SyntaxExport.Proofs.OutlineShape
import SyntaxExport.Proofs.LineIndex
import SyntaxExport.Proofs.Names
import SyntaxExport.Proofs.Schema
import SyntaxExport.Proofs.Typing
import SyntaxExport.Proofs.Labels
import SyntaxExport.Proofs.TypeNames
import SyntaxExport.Proofs.MarkupKeys
import SyntaxExport.Proofs.Comments
import SyntaxExport.Proofs.Program
import SyntaxExport.Proofs.Boundaries
import SyntaxExport.Proofs.Commit
import SyntaxExport.Proofs.RawStrings
import SyntaxExport.Proofs.Attributes
import SyntaxExport.Proofs.Loading
import SyntaxExport.Proofs.Quoting
import SyntaxExport.Proofs.Ownership
import SyntaxExport.Proofs.Numbers
import SyntaxExport.Proofs.Suffixes
import SyntaxExport.Proofs.Arithmetic
