import SyntaxExport.Format
import SyntaxExport.Walk

/-!
# Text outline

One line for each node, indented with connectors. The items of lists are children like others, and
identifiers are not shown.

A connector depends on whether more children of the same parent follow, so the state holds for every
open node how many children are still to come.
-/

namespace SyntaxExport.Encoder.Outline

/-- An open node: how many of its children are still to come, and what stands before them. -/
structure Frame where
  remaining : Nat
  indent : String
  deriving DecidableEq, Repr

/-- The text written so far and the open nodes, innermost first. -/
structure State where
  out : String
  stack : List Frame
  deriving DecidableEq, Repr

/-- Nothing written. -/
def State.empty : State :=
  ⟨"", []⟩

/-- The summary of a node's text in quotes, as every line starts. -/
def quotedSummary (n : Node) : String :=
  "\"" ++ n.summary ++ "\""

/-- What the line of a node shows in a given style. -/
def line : LineStyle → Node → String
  | .summaryTypeRange, n =>
      quotedSummary n ++ " " ++ n.typeName ++ " : " ++ Coordinates.parenthesized n.info.coordinates
  | .summaryType, n => quotedSummary n ++ " [" ++ n.typeName ++ "]"

/-- Writes the line of a node under its parent's. The last child of a parent gets the connector that
closes. -/
def node (render : Node → String) (_id _slot : String) (n : Node) (s : State) : State :=
  let own := n.children.length
  match s.stack with
  | [] => ⟨s.out ++ render n ++ "\n", [⟨own, ""⟩]⟩
  | parent :: rest =>
      let remaining := parent.remaining - 1
      let closes := remaining == 0
      let connector := if closes then "└─" else "├─"
      let continuation := if closes then "  " else "│ "
      ⟨s.out ++ parent.indent ++ connector ++ render n ++ "\n",
        ⟨own, parent.indent ++ continuation⟩ :: ⟨remaining, parent.indent⟩ :: rest⟩

end Outline

/-- The text outline of a tree whose lines are given by `render`. -/
def outline (render : Node → String) : Encoder Outline.State where
  node := Outline.node render
  edge := fun _ _ _ s => s
  leaveNode := fun _ _ _ s => { s with stack := s.stack.tail }
  finish := Outline.State.out

end SyntaxExport.Encoder
