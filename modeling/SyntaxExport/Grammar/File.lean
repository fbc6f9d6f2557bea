import SyntaxExport.Grammar.Item
import SyntaxExport.Grammar.Statement
import SyntaxExport.Token.Lexer

/-!
# Source files

`Grammar.parse` closes the circle of goals, and `Grammar.file` reads the attributes and items of a
file from its token trees.
-/

namespace SyntaxExport

namespace Grammar

variable {src : List Char}

/-- One step towards a goal, with a parser for the goals it needs. -/
def step (solve : Solve src) : (goal : Goal src) → Parser src goal.Result
  | .type allowPlus => type solve allowPlus
  | .bound allowCapture allowConst => bound solve allowCapture allowConst
  | .expr allowStruct => expr solve allowStruct
  | .unary allowStruct => unary solve allowStruct
  | .operators left allowStruct base => operators solve left allowStruct base
  | .operand right allowStruct above => operand solve right allowStruct above
  | .trailers e => trailers solve e
  | .conditional => conditional solve
  | .boundary => boundary solve
  | .pattern => pattern solve
  | .statements => statements solve
  | .item => item solve
  | .useTree allowRoot => useTree solve allowRoot
  | .namedFields => namedFields solve

/-- The parser of goals that are nested at most `depth` deep. -/
def parse : (depth : Nat) → Solve src
  | 0, _ => unexpected
  | depth + 1, goal => step (parse depth) goal

/-- Goals are nested at most this deep in the given trees: each step but a few takes a token. -/
def depthBound (trees : List (Tree src)) : Nat :=
  16 * (Tree.sizeAll trees + 4)

/-- Reads the attributes and items of a file. -/
def fileItems (solve : Solve src) : Parser src (List Attribute × List (Item src)) := do
  let attributes ← innerAttributes solve
  let items ← untilEnd (solve .item)
  return (attributes, items)

/-- The file that token trees stand for. A token left over at the end of a group is an error if
there is no other; at the end of the file an error is reported at its beginning. -/
def file (trees : List (Tree src)) (shebang : Option String) : Except Position (SourceFile src) :=
  match withExtent (fileItems (parse (depthBound trees))) ⟨trees, Position.start, [], 0, none⟩ with
  | .error p => .error p
  | .ok (((attributes, items), extent), state) =>
      match state.leftover with
      | some p => .error p
      | none => .ok ⟨extent, shebang, attributes, .ofList items⟩

end Grammar

end SyntaxExport
