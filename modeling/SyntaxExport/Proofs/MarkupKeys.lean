import SyntaxExport.Proofs.GraphMarkup

/-!
# Declared keys and the data that uses them

A document of the graph markup declares keys for nodes and keys for edges, and its elements hold
data under keys. The keys of nodes are collected from the data that nodes hold. Those of edges are
collected from the fields of edges alone, and the key of an edge's data is not one of them.

Results:
1. `covers_node`: data of nodes has declared keys.
2. `covers_edge_iff`: data of edges has declared keys only where there is no edge.
3. `edge_data_undeclared`: all of it in one statement.
-/

namespace SyntaxExport.Encoder.GraphML

open Session

theorem exists_link {types : Bool} {root : Node} {e : Element}
    (present : e ∈ (sheet types root).elements) (isEdge : e.kind = "edge") :
    ∃ link ∈ links root, e = edgeElement link := by
  have kept : e ∈ (sheet types root).elements.filter (fun e => e.kind = "edge") :=
    List.mem_filter.mpr ⟨present, decide_eq_true isEdge⟩
  rw [filter_edges] at kept
  obtain ⟨link, linked, rfl⟩ := List.mem_map.mp kept
  exact ⟨link, linked, rfl⟩

theorem covers_node (types : Bool) (root : Node) : (sheet types root).Covers "node" := by
  intro e present isNode data used
  have kept : e ∈ (sheet types root).elements.filter (fun e => e.kind = "node") :=
    List.mem_filter.mpr ⟨present, decide_eq_true isNode⟩
  rw [filter_nodes] at kept
  obtain ⟨id, n, inTree, rfl⟩ := exists_node kept
  exact List.mem_append_left _ (List.mem_map_of_mem (mem_nodeKeys_of_held inTree used))

theorem not_declared_parent (types : Bool) (root : Node) :
    ("edge", "PARENT") ∉ (sheet types root).keys := by
  have differs : "node" ≠ "edge" := by decide
  intro declared
  rcases List.mem_append.mp declared with forNodes | forEdges
  · obtain ⟨key, -, same⟩ := List.mem_map.mp forNodes
    exact differs (congrArg Prod.fst same)
  · obtain ⟨key, isKey, same⟩ := List.mem_map.mp forEdges
    have label : key = "PARENT" := congrArg Prod.snd same
    rw [label, edgeKeys_eq] at isKey
    split at isKey
    · exact absurd isKey (by decide)
    · cases isKey

theorem covers_edge_iff (types : Bool) (root : Node) :
    (sheet types root).Covers "edge" ↔ root.count = 1 := by
  have pairs := Node.length_parentPairs root
  have pos := root.count_pos
  constructor
  · intro covers
    cases split : root.parentPairs with
    | nil =>
      rw [split, List.length_nil] at pairs
      omega
    | cons pair rest =>
      -- the first edge holds data under a key that no edge declares
      let link : Edge := ⟨edgeName 0, nodeName pair.1, nodeName pair.2⟩
      have linked : link ∈ links root := by
        rw [links, split, List.mapIdx_cons]
        exact List.mem_cons_self
      have present : edgeElement link ∈ (sheet types root).elements :=
        List.mem_append_right _ (List.mem_map_of_mem linked)
      exact absurd (covers _ present rfl ("PARENT", "PARENT") (List.mem_singleton_self _))
        (not_declared_parent types root)
  · intro single e present isEdge data used
    obtain ⟨link, linked, -⟩ := exists_link present isEdge
    have none : root.parentPairs = [] := List.eq_nil_of_length_eq_zero (by omega)
    rw [links, none] at linked
    cases linked

/-- The document of a tree declares a key for all data that its nodes hold. An edge holds data under
one key, which is declared for no edge, so the data of edges has declared keys exactly where the
tree has a single node and no edge. -/
theorem edge_data_undeclared (types : Bool) (root : Node) :
    (graphml types).run .empty root = (sheet types root).text ∧
      (sheet types root).Covers "node" ∧
      ((sheet types root).Covers "edge" ↔ root.count = 1) ∧
      ("edge", "PARENT") ∉ (sheet types root).keys ∧
      ∀ e ∈ (sheet types root).elements, e.kind = "edge" → e.data = [("PARENT", "PARENT")] := by
  refine ⟨run_eq_sheet types root, covers_node types root, covers_edge_iff types root,
    not_declared_parent types root, ?_⟩
  intro e present isEdge
  obtain ⟨link, -, rfl⟩ := exists_link present isEdge
  rfl

/-- An item of a list that has an attribute of the same name: its key is declared, for nodes. -/
theorem edge_data_undeclared_item :
    let item : Node := .mk { typeName := "Leaf", attributes := [("PARENT", "x")] } [] []
    let tree : Node := .mk { typeName := "Root" } [] [("items", [item])]
    ("node", "PARENT") ∈ (sheet false tree).keys ∧ ¬ (sheet false tree).Covers "edge" ∧
      ∃ e ∈ (sheet false tree).elements, e.kind = "edge" ∧ e.data = [("PARENT", "PARENT")] := by
  intro item tree
  obtain ⟨-, nodes, edges, -, held⟩ := edge_data_undeclared false tree
  have node : nodeElement false (nodeName 1) item ∈ (sheet false tree).elements := by
    simp [sheet, nodeElements, named, Node.preorder_eq, tree, item, Node.children, Node.singular,
      Node.lists]
  have edge : edgeElement ⟨edgeName 0, nodeName 1, nodeName 0⟩ ∈ (sheet false tree).elements := by
    simp [sheet, links, Node.parentPairs, Node.childPairs, tree, item, Node.children,
      Node.singular, Node.lists]
  refine ⟨nodes _ node rfl ("PARENT", "x") (List.mem_singleton_self _), ?_, _, edge, rfl,
    held _ edge rfl⟩
  intro covers
  have single : tree.count = 1 := edges.mp covers
  cases single

/-- The smallest tree with an edge: its document does not declare all keys that it uses. -/
theorem undeclared_of_two_nodes :
    let leaf : Node := .mk { typeName := "Leaf" } [] []
    let tree : Node := .mk { typeName := "Root" } [("body", some leaf)] []
    (graphml true).run .empty tree = (sheet true tree).text ∧
      ¬ ((sheet true tree).Covers "node" ∧ (sheet true tree).Covers "edge") := by
  intro leaf tree
  refine ⟨run_eq_sheet true tree, fun covers => ?_⟩
  have single := (covers_edge_iff true tree).mp covers.2
  cases single

end SyntaxExport.Encoder.GraphML
