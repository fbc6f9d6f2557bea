import SyntaxExport.Walk

/-!
# The walk itself

An encoder that writes nothing but the steps of the walk, one line for each. It shows in which order
a walk meets nodes, edges and lists, and which identifiers it hands out.
-/

namespace SyntaxExport.Encoder

/-- A step of the walk. -/
inductive Step where
  | node (id slot typeName : String)
  | edge (edgeId parentId childId : String)
  | enter (parentId slot : String) (length : Nat)
  | leave (slot : String)
  | done (id slot : String)
  deriving DecidableEq, Repr

/-- A step in one line. -/
def Step.line : Step → String
  | node id slot typeName => s!"node {id} {slot} {typeName}"
  | edge edgeId parentId childId => s!"edge {edgeId} {parentId} {childId}"
  | enter parentId slot length => s!"enter {parentId} {slot} {length}"
  | leave slot => s!"leave {slot}"
  | done id slot => s!"done {id} {slot}"

/-- The steps of a walk, the last one first while it goes on. With `ownLists` every list takes a
node identifier of its own. -/
def trace (ownLists : Bool) : Encoder (List Step) where
  node := fun id slot n steps => .node id slot n.typeName :: steps
  edge := fun edgeId parentId childId steps => .edge edgeId parentId childId :: steps
  enterList := fun parentId slot length session steps =>
    let steps := .enter parentId slot length :: steps
    if ownLists then
      let (id, session) := session.nextNode
      (some id, session, steps)
    else (none, session, steps)
  leaveList := fun slot steps => .leave slot :: steps
  leaveNode := fun id slot _ steps => .done id slot :: steps
  finish := fun steps => "\n".intercalate (steps.reverse.map Step.line)

end SyntaxExport.Encoder
