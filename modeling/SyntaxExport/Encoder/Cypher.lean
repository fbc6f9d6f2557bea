import SyntaxExport.Text.Escape
import SyntaxExport.Walk

/-!
# Query script

Every node becomes a statement that creates it, after a clause that carries on all identifiers in
scope, and a relationship to its parent.
-/

namespace SyntaxExport.Encoder.Cypher

/-- The text written so far, the identifiers in scope in order of creation, and how many nodes have
been written. -/
structure State where
  out : String
  scope : List String
  written : Nat
  deriving DecidableEq, Repr

/-- Nothing written. -/
def State.empty : State :=
  ⟨"", [], 0⟩

/-- The blank lines between two nodes and after the last. -/
def State.separate (s : State) : State :=
  if s.written > 0 then { s with out := s.out ++ "\n\n" } else s

/-- A property of a node. -/
def property (name value : String) : String :=
  "  " ++ name ++ ": '" ++ value ++ "'"

/-- The properties of a node: its type, the name of its slot, its attributes. -/
def properties (includeTypeName : Bool) (slot : String) (n : Node) : List String :=
  (if includeTypeName then [property "type" n.typeName] else []) ++
    property "name" (Text.escapeQuery slot) ::
      n.attributes.map fun a => property (Text.escapeQuery a.1) (Text.escapeQuery a.2)

/-- The statement that creates a node. -/
def nodeStatement (includeTypeName : Bool) (scope : List String) (id slot : String) (n : Node) :
    String :=
  "\nWITH " ++ ", ".intercalate scope ++ "\nMERGE(" ++ id ++ ":Node:" ++ n.typeName ++ " \x7b\n" ++
    ",\n".intercalate (properties includeTypeName slot n) ++ "\n\x7d)"

/-- Writes a node, which joins the scope. -/
def node (includeTypeName : Bool) (id slot : String) (n : Node) (s : State) : State :=
  let s := s.separate
  let scope := if s.scope.contains id then s.scope else s.scope ++ [id]
  ⟨s.out ++ nodeStatement includeTypeName scope id slot n, scope, s.written + 1⟩

/-- Writes the relationship of a node to its parent. -/
def edge (_edgeId parentId childId : String) (s : State) : State :=
  { s with out := s.out ++ "\nMERGE (" ++ parentId ++ ")<-[:PARENT]-(" ++ childId ++ ")" }

end Cypher

/-- The query script of a tree. After a node is done, identifiers equal to the name of its slot
leave the scope. -/
def cypher (includeTypeName : Bool) : Encoder Cypher.State where
  node := Cypher.node includeTypeName
  edge := Cypher.edge
  leaveNode := fun _ slot _ s => { s with scope := s.scope.filter (· != slot) }
  finish := fun s => s.separate.out

end SyntaxExport.Encoder
