import SyntaxExport.Node
import SyntaxExport.Session
import SyntaxExport.Text.Plural

/-!
# The walk over a tree

All formats are written during one and the same walk: a node comes before its children, single slots
before lists, slots in declared order and items in list order. A format is an `Encoder`, a set of
steps on a state of its own; the walk hands it the nodes and the identifiers.
-/

namespace SyntaxExport

/-- An output format as steps on a state `σ`.

* `node id slot n`: a node is reached, under the name of its slot.
* `edge edgeId parentId childId`: the edge from the node's parent, right after the node.
* `enterList parentId slot length`: a list that is not empty starts. An identifier given back stands
  for the list as the parent of its items.
* `leaveList slot`: the list ends.
* `leaveNode id slot n`: the node and all below it are done.
* `finish`: the whole document. -/
structure Encoder (σ : Type) where
  node : (id slot : String) → Node → σ → σ
  edge : (edgeId parentId childId : String) → σ → σ
  enterList : (parentId slot : String) → (length : Nat) → Session → σ →
      Option String × Session × σ :=
    fun _ _ _ session state => (none, session, state)
  leaveList : (slot : String) → σ → σ := fun _ state => state
  leaveNode : (id slot : String) → Node → σ → σ := fun _ _ _ state => state
  finish : σ → String

namespace Encoder

variable {σ : Type}

mutual

/-- Visits a node under the name `slot` and all below it. -/
def walk (e : Encoder σ) (parent : Option String) (slot : String) :
    Node → Session × σ → Session × σ
  | .mk info singular lists, (session, state) =>
      let (id, session) := session.nextNode
      let state := e.node id slot (.mk info singular lists) state
      let (session, state) :=
        match parent with
        | some parentId =>
            let (edgeId, session) := session.nextEdge
            (session, e.edge edgeId parentId id state)
        | none => (session, state)
      let (session, state) := e.walkSingular id singular (session, state)
      let (session, state) := e.walkLists id lists (session, state)
      (session, e.leaveNode id slot (.mk info singular lists) state)

/-- Visits the children in single slots. -/
def walkSingular (e : Encoder σ) (id : String) :
    List (String × Option Node) → Session × σ → Session × σ
  | [], s => s
  | (_, none) :: rest, s => e.walkSingular id rest s
  | (slot, some n) :: rest, s => e.walkSingular id rest (e.walk (some id) slot n s)

/-- Visits the items of the lists that are not empty. -/
def walkLists (e : Encoder σ) (id : String) :
    List (String × List Node) → Session × σ → Session × σ
  | [], s => s
  | (slot, items) :: rest, (session, state) =>
      if items.isEmpty then e.walkLists id rest (session, state)
      else
        let (listId, session, state) := e.enterList id slot items.length session state
        let (session, state) :=
          e.walkItems (listId.getD id) (Text.singularize slot) items (session, state)
        e.walkLists id rest (session, e.leaveList slot state)

/-- Visits the items of a list. -/
def walkItems (e : Encoder σ) (parentId slot : String) : List Node → Session × σ → Session × σ
  | [], s => s
  | n :: rest, s => e.walkItems parentId slot rest (e.walk (some parentId) slot n s)

end

/-- The document of a tree. -/
def run (e : Encoder σ) (start : σ) (root : Node) : String :=
  e.finish (e.walk none "root" root (Session.fresh, start)).2

end Encoder

end SyntaxExport
