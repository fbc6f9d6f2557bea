import SyntaxExport.Encoder.Cypher
import SyntaxExport.Encoder.Dot
import SyntaxExport.Encoder.GraphML
import SyntaxExport.Encoder.Json
import SyntaxExport.Encoder.Outline
import SyntaxExport.Source.Text
import SyntaxExport.Typing

/-!
# Exports

`Node.write` gives the document of a tree in a format, `Source.write` that of a source text.
-/

namespace SyntaxExport

/-- The document of a tree. Types are shown only in the one format that has room for them, if the
options ask for them and there is a way to find them. -/
def Node.write (root : Node) (format : Format) (options : Options)
    (resolve : Option (Node → Option String)) : String :=
  match format with
  | .dot =>
      let shown := if options.resolveTypes then resolve.getD fun _ => none else fun _ => none
      (Encoder.dot options.includeTypeName shown).run .start root
  | .json => (Encoder.json options.includeTypeName).run .empty root
  | .cypher => (Encoder.cypher options.includeTypeName).run .empty root
  | .graphml => (Encoder.graphml options.includeTypeName).run .empty root
  | .ascii => (Encoder.outline (Encoder.Outline.line options.lineStyle)).run .empty root

/-- The document of a source text and the number of nodes of its tree. -/
structure Document where
  text : String
  nodeCount : Nat
  deriving DecidableEq, Repr

/-- The document of a source text. -/
def Source.write (text : String) (format : Format) (options : Options) :
    Except SyntaxError Document :=
  match Source.parse text with
  | .error e => .error e
  | .ok root => .ok ⟨root.write format options (some Typing.resolve?), root.count⟩

end SyntaxExport
