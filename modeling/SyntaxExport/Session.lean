/-!
# Identifiers handed out during an export

Nodes and edges are numbered on their own, both from zero, in the order they are asked for.
-/

namespace SyntaxExport

/-- How many node and edge identifiers have been handed out. -/
structure Session where
  nodes : Nat := 0
  edges : Nat := 0
  deriving DecidableEq, Repr

namespace Session

/-- The session of a new export. -/
def fresh : Session :=
  ⟨0, 0⟩

/-- The next node identifier. -/
def nextNode (s : Session) : String × Session :=
  ("n" ++ toString s.nodes, { s with nodes := s.nodes + 1 })

/-- The next edge identifier. -/
def nextEdge (s : Session) : String × Session :=
  ("e" ++ toString s.edges, { s with edges := s.edges + 1 })

end Session

end SyntaxExport
