import SyntaxExport.Export
import SyntaxExport.Proofs.Preorder
import SyntaxExport.Proofs.Recording

/-!
# Type names that are left out

An export can leave out the type names of nodes. An encoder is blind to a change in what nodes say
about themselves if none of its steps shows it. A walk hands an encoder nothing of a tree but its
nodes and the names of its slots, so what no step shows is not in the document.

Results:
1. `Blind.walk`: an encoder that is blind to a change walks both trees alike.
2. `blind_json`, `blind_dot`: without type names, both formats are blind to them.
3. `types_hidden`: trees that differ in nothing but type names have the same documents.
-/

namespace SyntaxExport

/-- What a node says about itself, with its type name empty. -/
def NodeInfo.untyped (info : NodeInfo) : NodeInfo :=
  { info with typeName := "" }

namespace Node

/-- The tree with the type names of all nodes empty. Two trees without their type names are equal
where they differ in nothing else. -/
def untyped (n : Node) : Node :=
  n.mapInfo NodeInfo.untyped

end Node

/-! ## Encoders that do not see a change -/

namespace Encoder

variable {σ : Type}

/-- No step of the encoder shows the change. -/
structure Blind (e : Encoder σ) (f : NodeInfo → NodeInfo) : Prop where
  node : ∀ id slot n s, e.node id slot (n.mapInfo f) s = e.node id slot n s
  leaveNode : ∀ id slot n s, e.leaveNode id slot (n.mapInfo f) s = e.leaveNode id slot n s

namespace Blind

variable {e : Encoder σ} {f : NodeInfo → NodeInfo}

theorem arrive (blind : e.Blind f) (parent : Option String) (slot : String) (n : Node)
    (s : Session × σ) : e.arrive parent slot (n.mapInfo f) s = e.arrive parent slot n s := by
  simp only [Encoder.arrive, blind.node]

mutual

theorem walk (blind : e.Blind f) : (n : Node) → (parent : Option String) → (slot : String) →
    (s : Session × σ) → e.walk parent slot (n.mapInfo f) s = e.walk parent slot n s
  | .mk info singular lists, parent, slot, s => by
    have leave := blind.leaveNode s.1.nextNode.1 slot (.mk info singular lists)
    rw [walk_eq_descend, walk_eq_descend, blind.arrive, descend, descend]
    rw [Node.mapInfo] at leave ⊢
    simp only [Node.singular, Node.lists, leave, blind.walkSingular singular,
      blind.walkLists lists]

theorem walkSingular (blind : e.Blind f) : (singular : List (String × Option Node)) →
    (id : String) → (s : Session × σ) →
    e.walkSingular id (Node.mapInfoSingular f singular) s = e.walkSingular id singular s
  | [], id, s => by rw [Node.mapInfoSingular]
  | (slot, none) :: rest, id, s => by
    rw [Node.mapInfoSingular, Encoder.walkSingular, Encoder.walkSingular,
      blind.walkSingular rest]
  | (slot, some n) :: rest, id, s => by
    rw [Node.mapInfoSingular, Encoder.walkSingular, Encoder.walkSingular, blind.walk n,
      blind.walkSingular rest]

theorem walkLists (blind : e.Blind f) : (lists : List (String × List Node)) → (id : String) →
    (s : Session × σ) → e.walkLists id (Node.mapInfoLists f lists) s = e.walkLists id lists s
  | [], id, s => by rw [Node.mapInfoLists]
  | (slot, items) :: rest, id, s => by
    -- the list is announced by its length, which the change does not touch
    have length : (Node.mapInfoItems f items).length = items.length := by
      rw [Node.mapInfoItems_eq, List.length_map]
    have empty : (Node.mapInfoItems f items).isEmpty = items.isEmpty := by
      rw [Node.mapInfoItems_eq, List.isEmpty_map]
    have visited : e.visitList id slot (Node.mapInfoItems f items) s =
        e.visitList id slot items s := by
      simp only [visitList, length, blind.walkItems items]
    rw [Node.mapInfoLists, walkLists_cons, walkLists_cons, empty, visited, blind.walkLists rest,
      blind.walkLists rest]

theorem walkItems (blind : e.Blind f) : (items : List Node) → (parentId slot : String) →
    (s : Session × σ) →
    e.walkItems parentId slot (Node.mapInfoItems f items) s = e.walkItems parentId slot items s
  | [], parentId, slot, s => by rw [Node.mapInfoItems]
  | n :: rest, parentId, slot, s => by
    rw [Node.mapInfoItems, Encoder.walkItems, Encoder.walkItems, blind.walk n,
      blind.walkItems rest]

end

theorem run (blind : e.Blind f) (start : σ) (root : Node) :
    e.run start (root.mapInfo f) = e.run start root := by
  rw [Encoder.run, Encoder.run, blind.walk]

/-- Trees that the change makes equal have the same document. -/
theorem run_eq (blind : e.Blind f) {a b : Node} (same : a.mapInfo f = b.mapInfo f) (start : σ) :
    e.run start a = e.run start b := by
  rw [← blind.run start a, same, blind.run]

end Blind

/-! ## The formats without type names -/

theorem blind_json : (json false).Blind NodeInfo.untyped where
  node := by
    intro id slot n s
    have own : Json.ownEntries false (n.mapInfo NodeInfo.untyped) = Json.ownEntries false n := by
      unfold Json.ownEntries Node.attributes
      rw [Node.info_mapInfo]
      rfl
    show Json.node false id slot _ s = Json.node false id slot n s
    unfold Json.node
    rw [own]
  leaveNode := fun _ _ _ _ => rfl

/-- A resolver sees the whole node. Only one that does not look at type names itself keeps them out
of the document. -/
theorem blind_dot {resolve : Node → Option String}
    (unseeing : ∀ n : Node, resolve (n.mapInfo NodeInfo.untyped) = resolve n) :
    (dot false resolve).Blind NodeInfo.untyped where
  node := by
    intro id slot n s
    have color : Dot.Color.ofNode slot (n.mapInfo NodeInfo.untyped) = Dot.Color.ofNode slot n := by
      unfold Dot.Color.ofNode
      rw [Node.info_mapInfo]
      rfl
    have statement (color : Dot.Color) (resolved : Option String) :
        Dot.nodeStatement false id slot (n.mapInfo NodeInfo.untyped) color resolved =
          Dot.nodeStatement false id slot n color resolved := by
      unfold Dot.nodeStatement Node.attributes
      rw [Node.info_mapInfo]
      rfl
    show Dot.node false resolve id slot _ s = Dot.node false resolve id slot n s
    unfold Dot.node
    rw [color, unseeing, Node.info_mapInfo]
    simp only [statement]
    rfl
  leaveNode := fun _ _ _ _ => rfl

end Encoder

/-! ## Documents -/

/-- Trees that differ in nothing but type names, at any number of places, have the same documents in
the object notation and in the graph description if type names are left out. In the graph
description types are not resolved either: the options do not ask for them or there is no way to
find them. -/
theorem types_hidden {a b : Node} (same : a.untyped = b.untyped) (options : Options)
    (off : options.includeTypeName = false) (resolve : Option (Node → Option String)) :
    a.write .json options resolve = b.write .json options resolve ∧
      ((options.resolveTypes = true → resolve = none) →
        a.write .dot options resolve = b.write .dot options resolve) := by
  constructor
  · show (Encoder.json options.includeTypeName).run .empty a =
      (Encoder.json options.includeTypeName).run .empty b
    rw [off]
    exact Encoder.blind_json.run_eq same .empty
  · intro unresolved
    have shown : (if options.resolveTypes then resolve.getD fun _ => none else fun _ => none) =
        fun _ => none := by
      split
      · next asked =>
        rw [unresolved asked]
        rfl
      · rfl
    unfold Node.write
    simp only [off, shown]
    exact (Encoder.blind_dot fun _ => rfl).run_eq same .start

/-- A node and an item of a list have other type names, one of which would be markup. -/
theorem types_hidden_two_places :
    let tree (top item : String) : Node := .mk
      { typeName := top, attributes := [("name", "f")], isExpression := true }
      [("body", some (.mk { typeName := "Block" } [] []))]
      [("items", [.mk { typeName := item } [] []])]
    let options : Options := { includeTypeName := false }
    (tree "A" "B").untyped = (tree "C" "\"><br/>").untyped ∧ tree "A" "B" ≠ tree "C" "\"><br/>" ∧
      (tree "A" "B").write .json options none = (tree "C" "\"><br/>").write .json options none ∧
      (tree "A" "B").write .dot options none = (tree "C" "\"><br/>").write .dot options none := by
  intro tree options
  have same : (tree "A" "B").untyped = (tree "C" "\"><br/>").untyped := rfl
  have hidden := types_hidden same options rfl none
  refine ⟨same, ?_, hidden.1, hidden.2 fun _ => rfl⟩
  intro equal
  have names := congrArg Node.typeName equal
  revert names
  decide

end SyntaxExport
