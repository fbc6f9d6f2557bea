import Mathlib.Data.List.Perm.Basic
import SyntaxExport.Encoder.GraphML
import SyntaxExport.Proofs.ByteOrder
import SyntaxExport.Proofs.Graph

/-!
# The layout of the graph markup

Which keys a document declares is known only after the walk, so the encoder keeps fragments and a
sorted list of keys until the end. The document is described here by the tree alone: the keys of all
its nodes in order, then an element for each node and one for each pair of the parent relation.
`Sheet` is a document in parts, and `Sheet.text` spells it out.

Results:
1. `mem_sortedKeys`, `pairwise_sortedKeys`: keys inserted one by one are sorted, each once.
2. `named_recorded`, `links_recorded`: the elements of a document, by rank.
3. `run_eq_sheet`: the document of a tree is its sheet, spelled out.
4. `relation_sheet`: the edges of the sheet are the parent relation of the tree.
5. `markup_layout`: the document, its keys and what they are declared for.
-/

namespace SyntaxExport.Encoder

open Session

namespace GraphML

/-! ## Documents in parts -/

/-- An element of the graph, of one kind or the other, with its fields and its data. -/
structure Element where
  kind : String
  fields : List (String × String)
  data : List (String × String)
  deriving DecidableEq

/-- A line with data. -/
def dataLine (key value : String) : String :=
  "\n            <data key=\"" ++ key ++ "\">" ++ Text.escapeData value ++ "</data>"

/-- The line that declares a key for elements of a kind. -/
def keyLine (kind name : String) : String :=
  "\n    <key id=\"" ++ name ++ "\" for=\"" ++ kind ++ "\" attr.name=\"" ++ name ++
    "\" attr.type=\"string\"/>"

/-- The lines before the keys. -/
def heading : String :=
  "<?xml version=\"1.0\" encoding=\"UTF-8\"?>\n" ++
    "<graphml xmlns=\"http://graphml.graphdrawing.org/xmlns\"\n" ++
    "         xmlns:xsi=\"http://www.w3.org/2001/XMLSchema-instance\"\n" ++
    "         xsi:schemaLocation=\"http://graphml.graphdrawing.org/xmlns " ++
    "http://graphml.graphdrawing.org/xmlns/1.0/graphml.xsd\">\n"

/-- The lines of an element. -/
def Element.text (e : Element) : String :=
  "\n        <" ++ e.kind ++
    String.join (e.fields.map fun f => " " ++ f.1 ++ "=\"" ++ f.2 ++ "\"") ++ ">" ++
    String.join (e.data.map fun d => dataLine d.1 d.2) ++ "\n        </" ++ e.kind ++ ">"

/-- What a field of an element says. -/
def Element.field (e : Element) (name : String) : String :=
  (e.fields.lookup name).getD ""

/-- A document in parts: the declared keys, each with the kind of element it is for, and the
elements of the graph. -/
structure Sheet where
  keys : List (String × String)
  elements : List Element
  deriving DecidableEq

namespace Sheet

/-- The document that the parts make. -/
def text (s : Sheet) : String :=
  heading ++ String.join (s.keys.map fun key => keyLine key.1 key.2) ++
    "\n    <graph id=\"G\" edgedefault=\"directed\">" ++
    String.join (s.elements.map Element.text) ++ "\n    </graph>\n</graphml>"

/-- All data in elements of a kind has a key that is declared for that kind. -/
def Covers (s : Sheet) (kind : String) : Prop :=
  ∀ e ∈ s.elements, e.kind = kind → ∀ data ∈ e.data, (kind, data.1) ∈ s.keys

instance (s : Sheet) (kind : String) : Decidable (s.Covers kind) :=
  inferInstanceAs (Decidable (∀ e ∈ s.elements, e.kind = kind →
    ∀ data ∈ e.data, (kind, data.1) ∈ s.keys))

/-- The graph of a document: nodes by their identifiers, edges from source to target. -/
def graph (s : Sheet) : Graph Element where
  nodes := (s.elements.filter fun e => e.kind = "node").map fun e => (e.field "id", e)
  lists := []
  edges := (s.elements.filter fun e => e.kind = "edge").map fun e =>
    (e.field "source", e.field "target")

end Sheet

/-- What a node holds as data: its type, if types are included, and its attributes. -/
def held (includeTypeName : Bool) (n : Node) : List (String × String) :=
  (if includeTypeName then [("type", n.typeName)] else []) ++ n.attributes

/-- The element of a node. -/
def nodeElement (includeTypeName : Bool) (id : String) (n : Node) : Element where
  kind := "node"
  fields := [("id", id), ("labels", ":Node:" ++ n.typeName)]
  data := held includeTypeName n

/-- An edge and its ends. -/
structure Edge where
  id : String
  source : String
  target : String

/-- The element of an edge. -/
def edgeElement (e : Edge) : Element where
  kind := "edge"
  fields := [("id", e.id), ("source", e.source), ("target", e.target), ("label", "PARENT")]
  data := [("PARENT", "PARENT")]

/-! ## Fragments -/

theorem keyEntry_eq (kind name : String) : keyEntry kind name = keyLine kind name := by
  unfold keyEntry keyLine field
  simp [← String.toList_inj]

theorem dataEntry_eq (key value : String) :
    "\n            " ++ dataEntry key value = dataLine key value := by
  unfold dataEntry dataLine field
  simp [← String.toList_inj]

theorem nodeFragment_eq (types : Bool) (id : String) (n : Node) :
    "\n" ++ nodeFragment types id n = (nodeElement types id n).text := by
  unfold nodeFragment Element.text nodeElement held nodeData
  simp only [dataEntry_eq, field]
  simp [← String.toList_inj]

theorem edgeFragment_eq (e : Edge) :
    "\n" ++ edgeFragment e.id e.target e.source = (edgeElement e).text := by
  unfold edgeFragment Element.text edgeElement dataLine
  simp [dataEntry, field, edgeLabel, ← String.toList_inj]

/-! ## Sorted keys -/

/-- The keys in order, each once. -/
def sortedKeys (keys : List String) : List String :=
  keys.foldl (fun sorted key => insertKey key sorted) []

theorem mem_insertKey {key other : String} {keys : List String} :
    other ∈ insertKey key keys ↔ other = key ∨ other ∈ keys := by
  induction keys with
  | nil => simp [insertKey]
  | cons head tail ih =>
    unfold insertKey
    split
    · exact List.mem_cons
    · split
      · next same =>
        subst same
        simp
      · rw [List.mem_cons, List.mem_cons, ih]
        exact or_left_comm

theorem pairwise_insertKey {keys : List String} (sorted : keys.Pairwise (· < ·)) (key : String) :
    (insertKey key keys).Pairwise (· < ·) := by
  induction keys with
  | nil => exact List.pairwise_singleton _ _
  | cons head tail ih =>
    obtain ⟨first, rest⟩ := List.pairwise_cons.mp sorted
    unfold insertKey
    split
    · next smaller =>
      refine List.pairwise_cons.mpr ⟨?_, sorted⟩
      intro other present
      rcases List.mem_cons.mp present with rfl | later
      · exact smaller
      · exact smaller.trans (first other later)
    · next notSmaller =>
      split
      · exact sorted
      · next different =>
        refine List.pairwise_cons.mpr ⟨?_, ih rest⟩
        intro other present
        rcases mem_insertKey.mp present with rfl | later
        · exact lt_of_le_of_ne (not_lt.mp notSmaller) (Ne.symm different)
        · exact first other later

theorem mem_foldl_insertKey {other : String} {keys sorted : List String} :
    other ∈ keys.foldl (fun sorted key => insertKey key sorted) sorted ↔
      other ∈ keys ∨ other ∈ sorted := by
  induction keys generalizing sorted with
  | nil => simp
  | cons key rest ih =>
    rw [List.foldl_cons, ih, mem_insertKey, List.mem_cons]
    tauto

theorem mem_sortedKeys {key : String} {keys : List String} :
    key ∈ sortedKeys keys ↔ key ∈ keys := by
  rw [sortedKeys, mem_foldl_insertKey, or_iff_left List.not_mem_nil]

theorem pairwise_sortedKeys (keys : List String) : (sortedKeys keys).Pairwise (· < ·) := by
  have kept (sorted : List String) (before : sorted.Pairwise (· < ·)) :
      (keys.foldl (fun sorted key => insertKey key sorted) sorted).Pairwise (· < ·) := by
    induction keys generalizing sorted with
    | nil => exact before
    | cons key rest ih => exact ih _ (pairwise_insertKey before key)
  exact kept [] .nil

/-- Only one list is sorted, without repetition, and has these keys. -/
theorem sortedKeys_eq {keys sorted : List String} (order : sorted.Pairwise (· < ·))
    (same : ∀ key, key ∈ keys ↔ key ∈ sorted) : sortedKeys keys = sorted := by
  have perm : (sortedKeys keys).Perm sorted := by
    refine (List.perm_ext_iff_of_nodup ?_ ?_).mpr fun key => mem_sortedKeys.trans (same key)
    · exact (pairwise_sortedKeys keys).imp fun less => ne_of_lt less
    · exact order.imp fun less => ne_of_lt less
  exact perm.eq_of_pairwise (fun a b _ _ less more => absurd (less.trans more) (lt_irrefl a))
    (pairwise_sortedKeys keys) order

/-! ## The state after a walk -/

/-- The keys that a node uses. -/
def keysOf (includeTypeName : Bool) (n : Node) : List String :=
  "id" :: "labels" :: (held includeTypeName n).map Prod.fst

/-- The keys that an edge uses. -/
def edgeFields : List String :=
  ["id", "source", "target", "label"]

/-- The edge of an edge call, which leads from the child to its parent. -/
def edge? : Call → Option Edge
  | .edge edgeId parentId childId => some ⟨edgeId, childId, parentId⟩
  | _ => none

/-- What is kept after calls, with the newest fragments first. -/
theorem foldl_perform (types : Bool) (calls : List Call) (s : State) :
    calls.foldl (graphml types).perform s =
      ⟨((calls.filterMap Call.node?).flatMap (keysOf types)).foldl
          (fun sorted key => insertKey key sorted) s.nodeKeys,
        ((calls.filterMap edge?).flatMap fun _ => edgeFields).foldl
          (fun sorted key => insertKey key sorted) s.edgeKeys,
        ((calls.filterMap Call.named?).map fun named =>
          nodeFragment types named.1 named.2).reverse ++ s.nodes,
        ((calls.filterMap edge?).map fun e =>
          edgeFragment e.id e.target e.source).reverse ++ s.edges⟩ := by
  induction calls generalizing s with
  | nil => rfl
  | cons call rest ih =>
    cases call with
    | node id slot n =>
      refine Eq.trans (ih (node types id slot n s)) ?_
      simp only [List.filterMap_cons, Call.node?, Call.named?, edge?, List.flatMap_cons,
        List.foldl_append, List.map_cons, List.reverse_cons, List.append_assoc]
      rfl
    | edge edgeId parentId childId =>
      refine Eq.trans (ih (edge edgeId parentId childId s)) ?_
      simp only [List.filterMap_cons, Call.node?, Call.named?, edge?, List.flatMap_cons,
        List.foldl_append, List.map_cons, List.reverse_cons, List.append_assoc]
      rfl
    | enterList | leaveList | leaveNode => exact ih s

section Ranked

variable {α β γ : Type} {f : Nat → α → β} (l : List α)

theorem map_mapIdx (g : β → γ) : (l.mapIdx f).map g = l.mapIdx fun k x => g (f k x) := by
  rw [List.mapIdx_eq_zipIdx_map, List.map_map, List.mapIdx_eq_zipIdx_map]
  rfl

/-- What does not look at the ranks can be said without them. -/
theorem map_mapIdx_of_forall {g : β → γ} {h : α → γ} (same : ∀ k x, g (f k x) = h x) :
    (l.mapIdx f).map g = l.map h := by
  calc (l.mapIdx f).map g
      = l.zipIdx.map fun pair => h pair.1 := by
        rw [List.mapIdx_eq_zipIdx_map, List.map_map]
        exact List.map_congr_left fun pair _ => same pair.2 pair.1
    _ = (l.zipIdx.map Prod.fst).map h := by
        rw [List.map_map]
        rfl
    _ = l.map h := by
        rw [List.zipIdx_map_fst]

theorem flatMap_mapIdx {g : β → List γ} {h : α → List γ} (same : ∀ k x, g (f k x) = h x) :
    (l.mapIdx f).flatMap g = l.flatMap h := by
  rw [List.flatMap_def, map_mapIdx_of_forall l same, List.flatMap_def]

end Ranked

/-! ## The elements of a tree -/

theorem silent_graphml (types : Bool) (parentId slot : String) (length : Nat) (session : Session)
    (s : State) :
    (graphml types).enterList parentId slot length session s = (none, session, s) :=
  rfl

/-- The nodes of a tree in pre-order, each with the name of its rank. -/
def named (root : Node) : List (String × Node) :=
  root.preorder.mapIdx fun k n => (nodeName k, n)

/-- The parent relation of a tree as edges, each with the name of its rank. -/
def links (root : Node) : List Edge :=
  root.parentPairs.mapIdx fun k pair => ⟨edgeName k, nodeName pair.1, nodeName pair.2⟩

theorem named_recorded (types : Bool) (root : Node) :
    ((graphml types).recorded .empty root).filterMap Call.named? = named root :=
  eq_mapIdx_of_ranked
    ((map_fst_named _).trans (nodeIds_recorded (silent_graphml types) .empty root))
    ((map_snd_named _).trans (nodes_recorded (silent_graphml types) .empty root))

theorem edgeIds_recorded (types : Bool) (root : Node) :
    ((graphml types).recorded .empty root).filterMap Call.edgeId? =
      (List.range root.parentPairs.length).map edgeName := by
  have visits := visits_calls (allocates_of_silent (silent_graphml types)) none "root" root
    (Session.fresh, .empty)
  rw [Node.length_parentPairs, List.range_eq_range']
  exact visits.edges

theorem links_recorded (types : Bool) (root : Node) :
    ((graphml types).recorded .empty root).filterMap edge? = links root := by
  have ids := edgeIds_recorded types root
  have ends := edges_recorded (silent_graphml types) .empty root
  generalize (graphml types).recorded .empty root = calls at ids ends ⊢
  have ids : (calls.filterMap edge?).map Edge.id =
      (List.range root.parentPairs.length).map edgeName := by
    rw [List.map_filterMap, ← ids]
    refine List.filterMap_congr fun call _ => ?_
    cases call <;> rfl
  have ends : (calls.filterMap edge?).map (fun e => (e.source, e.target)) =
      root.parentPairs.map fun pair => (nodeName pair.1, nodeName pair.2) := by
    rw [List.map_filterMap, ← ends]
    refine List.filterMap_congr fun call _ => ?_
    cases call <;> rfl
  refine List.ext_getElem ?_ fun k inside inside' => ?_
  · have lengths := congrArg List.length ends
    rw [List.length_map, List.length_map] at lengths
    rw [links, List.length_mapIdx]
    exact lengths
  · have id := List.getElem_of_eq ids (by rwa [List.length_map])
    have pair := List.getElem_of_eq ends (by rwa [List.length_map])
    rw [List.getElem_map, List.getElem_map, List.getElem_range] at id
    rw [List.getElem_map, List.getElem_map, Prod.mk.injEq] at pair
    simp only [links]
    rw [List.getElem_mapIdx, ← id, ← pair.1, ← pair.2]

/-! ## The document of a tree -/

/-- The keys declared for nodes. -/
def nodeKeys (includeTypeName : Bool) (root : Node) : List String :=
  sortedKeys (root.preorder.flatMap (keysOf includeTypeName))

/-- The keys declared for edges. -/
def edgeKeys (root : Node) : List String :=
  sortedKeys (root.parentPairs.flatMap fun _ => edgeFields)

/-- The elements of all nodes. -/
def nodeElements (includeTypeName : Bool) (root : Node) : List Element :=
  (named root).map fun named => nodeElement includeTypeName named.1 named.2

/-- The parts of the document of a tree. -/
def sheet (includeTypeName : Bool) (root : Node) : Sheet where
  keys := (nodeKeys includeTypeName root).map (Prod.mk "node") ++
    (edgeKeys root).map (Prod.mk "edge")
  elements := nodeElements includeTypeName root ++ (links root).map edgeElement

theorem foldl_recorded (types : Bool) (root : Node) :
    ((graphml types).recorded .empty root).foldl (graphml types).perform .empty =
      ⟨nodeKeys types root, edgeKeys root,
        ((named root).map fun named => nodeFragment types named.1 named.2).reverse,
        ((links root).map fun e => edgeFragment e.id e.target e.source).reverse⟩ := by
  rw [foldl_perform, nodes_recorded (silent_graphml types), named_recorded, links_recorded,
    State.mk.injEq]
  refine ⟨rfl, ?_, ?_, ?_⟩
  · exact congrArg sortedKeys (flatMap_mapIdx root.parentPairs fun _ _ => rfl)
  · exact List.append_nil _
  · exact List.append_nil _

theorem run_eq_sheet (types : Bool) (root : Node) :
    (graphml types).run .empty root = (sheet types root).text := by
  have keys : (sheet types root).keys.map (fun key => keyLine key.1 key.2) =
      (nodeKeys types root).map (keyEntry "node") ++ (edgeKeys root).map (keyEntry "edge") := by
    rw [sheet, List.map_append, List.map_map, List.map_map, funext (keyEntry_eq "node"),
      funext (keyEntry_eq "edge")]
    rfl
  have nodes : (nodeElements types root).map Element.text =
      ((named root).map fun named => nodeFragment types named.1 named.2).map ("\n" ++ ·) := by
    rw [nodeElements, List.map_map, List.map_map]
    exact List.map_congr_left fun named _ => (nodeFragment_eq types named.1 named.2).symm
  have edges : ((links root).map edgeElement).map Element.text =
      ((links root).map fun e => edgeFragment e.id e.target e.source).map ("\n" ++ ·) := by
    rw [List.map_map, List.map_map]
    exact List.map_congr_left fun e _ => (edgeFragment_eq e).symm
  have elements : (sheet types root).elements.map Element.text =
      (nodeElements types root).map Element.text ++
        ((links root).map edgeElement).map Element.text := by
    rw [sheet, List.map_append]
  rw [run_eq_finish, foldl_recorded, Sheet.text, keys, elements, nodes, edges, String.join_append,
    String.join_append]
  simp only [graphml, document, List.reverse_reverse, String.append_assoc]
  rfl

/-- A key is declared for nodes where some node uses it. -/
theorem mem_nodeKeys {types : Bool} {root : Node} {key : String} :
    key ∈ nodeKeys types root ↔ key = "id" ∨ key = "labels" ∨ (types = true ∧ key = "type") ∨
      ∃ n ∈ root.preorder, key ∈ n.attributes.map Prod.fst := by
  have own (n : Node) : key ∈ keysOf types n ↔ key = "id" ∨ key = "labels" ∨
      (types = true ∧ key = "type") ∨ key ∈ n.attributes.map Prod.fst := by
    rw [keysOf, held, List.mem_cons, List.mem_cons, List.map_append, List.mem_append]
    cases types with
    | false => simp
    | true => simp
  have top : root ∈ root.preorder := by
    rw [Node.preorder_eq]
    exact List.mem_cons_self
  rw [nodeKeys, mem_sortedKeys, List.mem_flatMap]
  constructor
  · rintro ⟨n, present, used⟩
    rcases (own n).mp used with isId | isLabels | isType | isName
    · exact .inl isId
    · exact .inr (.inl isLabels)
    · exact .inr (.inr (.inl isType))
    · exact .inr (.inr (.inr ⟨n, present, isName⟩))
  · -- what all nodes use is used by the first, and there always is one
    rintro (isId | isLabels | isType | ⟨n, present, isName⟩)
    · exact ⟨root, top, (own root).mpr (.inl isId)⟩
    · exact ⟨root, top, (own root).mpr (.inr (.inl isLabels))⟩
    · exact ⟨root, top, (own root).mpr (.inr (.inr (.inl isType)))⟩
    · exact ⟨n, present, (own n).mpr (.inr (.inr (.inr isName)))⟩

theorem mem_nodeKeys_of_held {types : Bool} {root n : Node} (present : n ∈ root.preorder)
    {data : String × String} (used : data ∈ held types n) : data.1 ∈ nodeKeys types root := by
  refine mem_sortedKeys.mpr (List.mem_flatMap.mpr ⟨n, present, ?_⟩)
  exact List.mem_cons_of_mem _ (List.mem_cons_of_mem _ (List.mem_map_of_mem used))

theorem edgeKeys_eq (root : Node) :
    edgeKeys root = if 2 ≤ root.count then ["id", "label", "source", "target"] else [] := by
  have pairs := Node.length_parentPairs root
  rw [edgeKeys]
  split
  · next several =>
    refine sortedKeys_eq (by decide) fun key => ?_
    cases split : root.parentPairs with
    | nil =>
      rw [split, List.length_nil] at pairs
      omega
    | cons pair rest =>
      simp only [List.mem_flatMap, edgeFields, List.mem_cons, List.not_mem_nil, or_false]
      constructor
      · rintro ⟨_, _, used⟩
        tauto
      · intro used
        exact ⟨pair, .inl rfl, by tauto⟩
  · next single =>
    have none : root.parentPairs = [] := List.eq_nil_of_length_eq_zero (by omega)
    rw [none]
    rfl

theorem exists_node {types : Bool} {root : Node} {e : Element}
    (present : e ∈ nodeElements types root) :
    ∃ id, ∃ n ∈ root.preorder, e = nodeElement types id n := by
  obtain ⟨_, ranked, rfl⟩ := List.mem_map.mp present
  obtain ⟨k, inside, rfl⟩ := List.mem_mapIdx.mp ranked
  exact ⟨nodeName k, _, List.getElem_mem inside, rfl⟩

/-! ## The graph of the document -/

theorem filter_nodes (types : Bool) (root : Node) :
    (sheet types root).elements.filter (fun e => e.kind = "node") = nodeElements types root := by
  rw [sheet, List.filter_append, List.filter_eq_self.mpr, List.filter_eq_nil_iff.mpr,
    List.append_nil]
  · intro e present
    obtain ⟨link, -, rfl⟩ := List.mem_map.mp present
    simp [edgeElement]
  · intro e present
    obtain ⟨id, n, -, rfl⟩ := exists_node present
    simp [nodeElement]

theorem filter_edges (types : Bool) (root : Node) :
    (sheet types root).elements.filter (fun e => e.kind = "edge") =
      (links root).map edgeElement := by
  rw [sheet, List.filter_append, List.filter_eq_nil_iff.mpr, List.filter_eq_self.mpr,
    List.nil_append]
  · intro e present
    obtain ⟨link, -, rfl⟩ := List.mem_map.mp present
    simp [edgeElement]
  · intro e present
    obtain ⟨id, n, -, rfl⟩ := exists_node present
    simp [nodeElement]

theorem nodes_sheet (types : Bool) (root : Node) :
    (sheet types root).graph.nodes =
      root.preorder.mapIdx fun k n => (nodeName k, nodeElement types (nodeName k) n) := by
  rw [Sheet.graph, filter_nodes, nodeElements, named, map_mapIdx, map_mapIdx]
  rfl

theorem ids_sheet (types : Bool) (root : Node) :
    (sheet types root).graph.ids = (List.range root.count).map nodeName := by
  rw [Graph.ids, nodes_sheet, map_mapIdx, ← Node.length_preorder]
  refine List.ext_getElem ?_ fun k inside inside' => ?_
  · simp
  · simp

theorem edges_sheet (types : Bool) (root : Node) :
    (sheet types root).graph.edges =
      root.parentPairs.map fun pair => (nodeName pair.1, nodeName pair.2) := by
  rw [Sheet.graph, filter_edges, List.map_map]
  exact map_mapIdx_of_forall root.parentPairs fun _ _ => rfl

theorem relation_sheet (types : Bool) (root : Node) :
    (sheet types root).graph.relation = root.parentPairs :=
  relation_of_ranked (ids_sheet types root) rfl (edges_sheet types root)

/-- The document of a tree: its head, the keys of nodes and those of edges, the nodes and the edges
of the graph, its end. The keys of nodes are those that some node uses, in the order of their
bytes, and keys of edges are declared where there is an edge. So no node uses a key that is not
declared. -/
theorem markup_layout (types : Bool) (root : Node) :
    let nodes := root.preorder.mapIdx fun k n => nodeElement types (nodeName k) n
    let edges := root.parentPairs.mapIdx fun k pair =>
      edgeElement ⟨edgeName k, nodeName pair.1, nodeName pair.2⟩
    ∃ nodeKeys edgeKeys : List String,
      (graphml types).run .empty root =
        heading ++ String.join (nodeKeys.map (keyLine "node")) ++
          String.join (edgeKeys.map (keyLine "edge")) ++
          "\n    <graph id=\"G\" edgedefault=\"directed\">" ++
          String.join (nodes.map Element.text) ++ String.join (edges.map Element.text) ++
          "\n    </graph>\n</graphml>" ∧
      (∀ key, key ∈ nodeKeys ↔ key = "id" ∨ key = "labels" ∨ (types = true ∧ key = "type") ∨
        ∃ n ∈ root.preorder, key ∈ n.attributes.map Prod.fst) ∧
      nodeKeys.Pairwise (fun a b => Text.bytes a < Text.bytes b) ∧
      edgeKeys = (if 2 ≤ root.count then ["id", "label", "source", "target"] else []) ∧
      ∀ e ∈ nodes, ∀ data ∈ e.data, data.1 ∈ nodeKeys := by
  intro nodes edges
  have ranked : nodeElements types root = nodes := map_mapIdx ..
  have linked : (links root).map edgeElement = edges := map_mapIdx ..
  refine ⟨nodeKeys types root, edgeKeys root, ?_, fun _ => mem_nodeKeys, ?_, edgeKeys_eq root, ?_⟩
  · rw [run_eq_sheet, Sheet.text, sheet, ranked, linked, List.map_append, List.map_append,
      String.join_append, String.join_append, List.map_map, List.map_map]
    simp only [String.append_assoc]
    rfl
  · exact (pairwise_sortedKeys _).imp fun less => Text.bytes_lt_bytes less
  · intro e present data used
    rw [← ranked] at present
    obtain ⟨id, n, inTree, rfl⟩ := exists_node present
    exact mem_nodeKeys_of_held inTree used

end GraphML

end SyntaxExport.Encoder
