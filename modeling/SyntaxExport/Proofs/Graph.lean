import SyntaxExport.Proofs.Numbering

/-!
# The graph of a walk

The graph formats write the same tree with identifiers of their own choice, and one of them puts a
node between a list's owner and its items. What they agree on is the parent relation on ranks: a
node's rank is its place among the nodes of the graph, and a list is merged with its owner.

Results:
1. `map_owner_holders`: nodes hang where the parent relation of the tree says.
2. `relation_graph`: the graph of every walk has the parent relation of the tree.
3. `nodeIds_recorded`, `edges_recorded`: an encoder that lets lists pass numbers the nodes by their
   ranks and draws the parent relation itself.
4. `relation_of_ranked`: such a graph has that relation.
-/

namespace SyntaxExport

open Session

/-- Nodes in the order they are written, the identifiers of lists, and edges from child to
parent. -/
structure Graph (α : Type) where
  nodes : List (String × α)
  lists : List String
  edges : List (String × String)

namespace Graph

variable {α : Type}

/-- The identifiers of the nodes. -/
def ids (g : Graph α) : List String :=
  g.nodes.map Prod.fst

/-- The node that owns a list; a node stands for itself. -/
def owner (g : Graph α) (id : String) : String :=
  if id ∈ g.lists then (g.edges.lookup id).getD id else id

/-- The edges of nodes, with each list merged with its owner. -/
def contracted (g : Graph α) : List (String × String) :=
  (g.edges.filter fun edge => edge.1 ∉ g.lists).map fun edge => (edge.1, g.owner edge.2)

/-- The parent relation: the ranks of child and parent for every edge, in order. -/
def relation (g : Graph α) : List (Nat × Nat) :=
  g.contracted.map fun edge => (g.ids.idxOf edge.1, g.ids.idxOf edge.2)

end Graph

/-! ## Holders and the parent relation of the tree -/

namespace Node

mutual

theorem map_owner_holders : (n : Node) → (rank list : Nat) →
    (n.holders rank list).map Holder.owner =
      (childPairs rank (rank + 1) n.children).map Prod.snd
  | mk _ singular lists, rank, list => by
    rw [holders, List.map_append, map_owner_holdersSingular, map_owner_holdersLists, children,
      childPairs_append, List.map_append]
    rfl

theorem map_owner_holdersSingular : (singular : List (String × Option Node)) →
    (owner next list : Nat) →
    (holdersSingular owner next list singular).map Holder.owner =
      (childPairs owner next (singular.filterMap Prod.snd)).map Prod.snd
  | [], owner, next, list => by
    rw [holdersSingular, List.filterMap_nil, childPairs, List.map_nil, List.map_nil]
  | (_, none) :: rest, owner, next, list => by
    rw [holdersSingular, map_owner_holdersSingular rest]
    rfl
  | (_, some n) :: rest, owner, next, list => by
    rw [holdersSingular, List.filterMap_cons, childPairs, List.map_cons, List.map_cons,
      List.map_append, List.map_append, map_owner_holders n, map_owner_holdersSingular rest]

theorem map_owner_holdersLists : (lists : List (String × List Node)) →
    (owner next list : Nat) →
    (holdersLists owner next list lists).map Holder.owner =
      (childPairs owner next (lists.flatMap Prod.snd)).map Prod.snd
  | [], owner, next, list => by
    rw [holdersLists, List.flatMap_nil, childPairs, List.map_nil, List.map_nil]
  | (slot, []) :: rest, owner, next, list => by
    rw [holdersLists, List.flatMap_cons]
    exact map_owner_holdersLists rest owner next list
  | (slot, n :: items) :: rest, owner, next, list => by
    have filled : ¬ (n :: items).isEmpty = true := Bool.false_ne_true
    rw [holdersLists, if_neg filled, List.map_append, map_owner_holdersItems (n :: items),
      map_owner_holdersLists rest, List.flatMap_cons, childPairs_append, List.map_append]

theorem map_owner_holdersItems : (items : List Node) → (holder : Holder) →
    (next list : Nat) →
    (holdersItems holder next list items).map Holder.owner =
      (childPairs holder.owner next items).map Prod.snd
  | [], holder, next, list => by
    rw [holdersItems, childPairs, List.map_nil, List.map_nil]
  | n :: rest, holder, next, list => by
    rw [holdersItems, childPairs, List.map_cons, List.map_cons, List.map_append, List.map_append,
      map_owner_holders n, map_owner_holdersItems rest]

end

end Node

/-! ## The graph of calls -/

namespace Encoder

namespace Call

/-- The node of a node call, with its identifier. -/
def named? : Call → Option (String × Node)
  | .node id _ n => some (id, n)
  | _ => none

/-- The identifier of a list that has one. -/
def listId? : Call → Option String
  | .enterList _ _ _ _ given => given
  | _ => none

/-- The identifier of a node or of a list that has one. -/
def name? : Call → Option String
  | .node id _ _ => some id
  | .enterList _ _ _ _ given => given
  | _ => none

/-- The edge from a node to its parent. -/
def edge? : Call → Option (String × String)
  | .edge _ parentId childId => some (childId, parentId)
  | _ => none

/-- The edge from a node to its parent, or from a list to its owner. -/
def link? : Call → Option (String × String)
  | .edge _ parentId childId => some (childId, parentId)
  | .enterList parentId _ _ _ given => given.map fun id => (id, parentId)
  | _ => none

/-- The graph that the calls describe. -/
def graph (calls : List Call) : Graph Node :=
  ⟨calls.filterMap named?, calls.filterMap listId?, calls.filterMap link?⟩

end Call

theorem map_fst_named (calls : List Call) :
    (calls.filterMap Call.named?).map Prod.fst = calls.filterMap Call.nodeId? := by
  rw [List.map_filterMap]
  refine List.filterMap_congr fun call _ => ?_
  cases call <;> rfl

theorem map_snd_named (calls : List Call) :
    (calls.filterMap Call.named?).map Prod.snd = calls.filterMap Call.node? := by
  rw [List.map_filterMap]
  refine List.filterMap_congr fun call _ => ?_
  cases call <;> rfl

theorem ids_graph (calls : List Call) : (Call.graph calls).ids = calls.filterMap Call.nodeId? :=
  map_fst_named calls

theorem map_fst_edges (calls : List Call) :
    (calls.filterMap Call.edge?).map Prod.fst = calls.filterMap Call.childId? := by
  rw [List.map_filterMap]
  refine List.filterMap_congr fun call _ => ?_
  cases call <;> rfl

theorem map_snd_edges (calls : List Call) :
    (calls.filterMap Call.edge?).map Prod.snd = calls.filterMap Call.parentId? := by
  rw [List.map_filterMap]
  refine List.filterMap_congr fun call _ => ?_
  cases call <;> rfl

theorem mem_names_of_node {calls : List Call} {id : String}
    (isNode : id ∈ calls.filterMap Call.nodeId?) : id ∈ calls.filterMap Call.name? := by
  obtain ⟨call, present, named⟩ := List.mem_filterMap.mp isNode
  cases call with
  | node => exact List.mem_filterMap.mpr ⟨_, present, named⟩
  | edge | enterList | leaveList | leaveNode => cases named

theorem mem_names_of_list {calls : List Call} {id : String}
    (isList : id ∈ calls.filterMap Call.listId?) : id ∈ calls.filterMap Call.name? := by
  obtain ⟨call, present, named⟩ := List.mem_filterMap.mp isList
  cases call with
  | enterList => exact List.mem_filterMap.mpr ⟨_, present, named⟩
  | edge | node | leaveList | leaveNode => cases named

/-- Where no name is used twice, no list has the name of a node. -/
theorem not_list_of_node {calls : List Call} (distinct : (calls.filterMap Call.name?).Nodup)
    {id : String} (isNode : id ∈ calls.filterMap Call.nodeId?) :
    id ∉ calls.filterMap Call.listId? := by
  induction calls with
  | nil => exact List.not_mem_nil
  | cons call rest ih =>
    cases call with
    | node id' slot n =>
      obtain ⟨fresh, later⟩ := List.nodup_cons.mp distinct
      rcases List.mem_cons.mp isNode with rfl | isNode
      · exact fun isList => fresh (mem_names_of_list isList)
      · exact ih later isNode
    | enterList parentId slot length session given =>
      cases given with
      | none => exact ih distinct isNode
      | some listId =>
        obtain ⟨fresh, later⟩ := List.nodup_cons.mp distinct
        intro isList
        rcases List.mem_cons.mp isList with rfl | isList
        · exact fresh (mem_names_of_node isNode)
        · exact ih later isNode isList
    | edge | leaveList | leaveNode => exact ih distinct isNode

theorem nodup_nodeIds {calls : List Call} (distinct : (calls.filterMap Call.name?).Nodup) :
    (calls.filterMap Call.nodeId?).Nodup := by
  induction calls with
  | nil => exact List.nodup_nil
  | cons call rest ih =>
    cases call with
    | node id slot n =>
      obtain ⟨fresh, later⟩ := List.nodup_cons.mp distinct
      exact List.nodup_cons.mpr ⟨fun isNode => fresh (mem_names_of_node isNode), ih later⟩
    | enterList parentId slot length session given =>
      cases given with
      | none => exact ih distinct
      | some listId => exact ih (List.nodup_cons.mp distinct).2
    | edge | leaveList | leaveNode => exact ih distinct

/-- The edges start at the nodes and lists below the top, in order. -/
theorem Paired.links {calls : List Call} (paired : Paired calls) :
    (calls.filterMap Call.link?).map Prod.fst = calls.filterMap Call.name? := by
  induction paired with
  | nil => rfl
  | node _ ih => exact congrArg (List.cons _) ih
  | @enterList parentId slot length session given rest _ ih =>
    cases given with
    | none => exact ih
    | some listId => exact congrArg (List.cons _) ih
  | leaveList _ ih | leaveNode _ ih => exact ih

theorem lookup_eq_some_of_mem {edges : List (String × String)}
    (distinct : (edges.map Prod.fst).Nodup) {id parentId : String}
    (present : (id, parentId) ∈ edges) : edges.lookup id = some parentId := by
  induction edges with
  | nil => cases present
  | cons edge rest ih =>
    obtain ⟨fresh, later⟩ := List.nodup_cons.mp distinct
    rw [List.lookup_cons]
    rcases List.mem_cons.mp present with rfl | present
    · rw [beq_self_eq_true]
    · have other : (id == edge.1) = false := by
        rw [beq_eq_false_iff_ne]
        intro same
        exact fresh (same ▸ List.mem_map_of_mem (f := Prod.fst) present)
      rw [other]
      exact ih later present

theorem idxOf_eq_of_getElem? {names : List String} (distinct : names.Nodup) {k : Nat}
    {name : String} (found : names[k]? = some name) : names.idxOf name = k := by
  obtain ⟨inside, rfl⟩ := List.getElem?_eq_some_iff.mp found
  exact distinct.idxOf_getElem k inside

theorem map_idxOf_self {names : List String} (distinct : names.Nodup) :
    names.map names.idxOf = List.range names.length := by
  refine List.ext_getElem (by simp) fun k inside _ => ?_
  rw [List.getElem_map, List.getElem_range]
  exact distinct.idxOf_getElem k _

section Relation

variable {ownLists : Bool} {slot : String} {n : Node} {before after : Session}
  {calls : List Call}

theorem nodup_links (visits : Visits ownLists none slot n before after calls)
    (distinct : (calls.filterMap Call.name?).Nodup) :
    ((Call.graph calls).edges.map Prod.fst).Nodup := by
  obtain ⟨below, rfl, paired⟩ := visits.paired
  have keys : (Call.graph (callsArrive none slot n before ++ below)).edges.map Prod.fst =
      below.filterMap Call.name? :=
    paired.links
  rw [keys]
  exact (List.nodup_cons.mp distinct).2

theorem mem_nodeIds_of_edge (visits : Visits ownLists none slot n before after calls)
    {edgeId parentId childId : String} (present : .edge edgeId parentId childId ∈ calls) :
    childId ∈ calls.filterMap Call.nodeId? := by
  have isChild : childId ∈ calls.filterMap Call.childId? :=
    List.mem_filterMap.mpr ⟨_, present, rfl⟩
  rw [visits.children] at isChild
  exact List.mem_of_mem_drop isChild

theorem contracted_graph (visits : Visits ownLists none slot n before after calls)
    (distinct : (calls.filterMap Call.name?).Nodup) :
    (Call.graph calls).contracted =
      (calls.filterMap Call.edge?).map fun edge => (edge.1, (Call.graph calls).owner edge.2) := by
  rw [Graph.contracted]
  refine congrArg (List.map _) ?_
  rw [Call.graph, List.filter_filterMap]
  refine List.filterMap_congr fun call present => ?_
  cases call with
  | edge edgeId parentId childId =>
    -- only an edge of a list starts at a list, and this is an edge of a node
    have notList := not_list_of_node distinct (mem_nodeIds_of_edge visits present)
    exact Option.filter_some_pos (decide_eq_true notList)
  | enterList parentId slot length session given =>
    cases given with
    | none => rfl
    | some listId =>
      have isList : listId ∈ calls.filterMap Call.listId? :=
        List.mem_filterMap.mpr ⟨_, present, rfl⟩
      exact Option.filter_some_neg (by simpa using isList)
  | node | leaveList | leaveNode => rfl

/-- Where an edge leads to, once lists are merged with their owners, is the parent in the tree. -/
theorem getElem?_owner_of_resolves (visits : Visits ownLists none slot n before after calls)
    (distinct : (calls.filterMap Call.name?).Nodup) {holder : Node.Holder} {parentId : String}
    (resolves : holder.Resolves (fun k => (calls.filterMap Call.nodeId?)[k]?)
      (fun k => (calls.filterMap Call.list?)[k]?) parentId) :
    (Call.graph calls).ids[holder.owner]? = some ((Call.graph calls).owner parentId) := by
  obtain ⟨ownerId, known, leads⟩ := resolves
  have isNode : ownerId ∈ calls.filterMap Call.nodeId? := List.mem_of_getElem? known
  have itself : (Call.graph calls).owner ownerId = ownerId :=
    if_neg (not_list_of_node distinct isNode)
  rw [ids_graph]
  refine Eq.trans known (congrArg some ?_)
  obtain ⟨owner, _ | ⟨k, name⟩⟩ := holder
  · rw [show parentId = ownerId from leads, itself]
  · obtain ⟨given, entered, rfl⟩ := leads
    cases given with
    | none => rw [Option.getD_none, itself]
    | some listId =>
      -- the call that gave the list its identifier also drew the edge to the owner
      obtain ⟨call, present, isCall⟩ := List.mem_filterMap.mp (List.mem_of_getElem? entered)
      cases call with
      | enterList parentId slot length session given =>
        cases isCall
        have isList : listId ∈ (Call.graph calls).lists := List.mem_filterMap.mpr ⟨_, present, rfl⟩
        have link : (listId, ownerId) ∈ (Call.graph calls).edges :=
          List.mem_filterMap.mpr ⟨_, present, rfl⟩
        rw [Option.getD_some, Graph.owner, if_pos isList,
          lookup_eq_some_of_mem (nodup_links visits distinct) link, Option.getD_some]
      | edge | node | leaveList | leaveNode => cases isCall

theorem map_fst_relation_graph (visits : Visits ownLists none slot n before after calls)
    (distinct : (calls.filterMap Call.name?).Nodup) :
    (Call.graph calls).relation.map Prod.fst = n.parentPairs.map Prod.fst := by
  have children : (calls.filterMap Call.edge?).map Prod.fst =
      (calls.filterMap Call.nodeId?).drop 1 :=
    (map_fst_edges calls).trans visits.children
  have count : (calls.filterMap Call.nodeId?).length = 1 + Node.total n.children := by
    rw [length_filterMap_nodeId?, visits.count, Node.count_eq]
  calc
    (Call.graph calls).relation.map Prod.fst
      = (calls.filterMap Call.edge?).map fun edge => (Call.graph calls).ids.idxOf edge.1 := by
        rw [Graph.relation, contracted_graph visits distinct, List.map_map, List.map_map]
        rfl
    _ = ((calls.filterMap Call.nodeId?).drop 1).map (Call.graph calls).ids.idxOf := by
        rw [← children, List.map_map]
        rfl
    _ = List.range' 1 (Node.total n.children) := by
        rw [List.map_drop, ids_graph, map_idxOf_self (nodup_nodeIds distinct), count,
          List.range_eq_range', List.drop_range', Nat.add_sub_cancel_left]
    _ = n.parentPairs.map Prod.fst := by
        rw [Node.parentPairs, Node.map_fst_childPairs]

theorem map_snd_relation_graph (visits : Visits ownLists none slot n before after calls)
    (distinct : (calls.filterMap Call.name?).Nodup) :
    (Call.graph calls).relation.map Prod.snd = n.parentPairs.map Prod.snd := by
  obtain ⟨below, parents, resolved⟩ := visits.parents
  have edges : (calls.filterMap Call.edge?).map Prod.snd = below :=
    (map_snd_edges calls).trans parents
  have ranks : List.Forall₂ (fun holder parentId => holder.owner =
      (Call.graph calls).ids.idxOf ((Call.graph calls).owner parentId)) (n.holders 0 0) below := by
    refine resolved.imp fun holder parentId resolves => ?_
    have found := getElem?_owner_of_resolves visits distinct resolves
    have distinctIds : (Call.graph calls).ids.Nodup := by
      rw [ids_graph]
      exact nodup_nodeIds distinct
    exact (idxOf_eq_of_getElem? distinctIds found).symm
  calc
    (Call.graph calls).relation.map Prod.snd
      = (calls.filterMap Call.edge?).map fun edge =>
          (Call.graph calls).ids.idxOf ((Call.graph calls).owner edge.2) := by
        rw [Graph.relation, contracted_graph visits distinct, List.map_map, List.map_map]
        rfl
    _ = below.map fun parentId =>
          (Call.graph calls).ids.idxOf ((Call.graph calls).owner parentId) := by
        rw [← edges, List.map_map]
        rfl
    _ = (n.holders 0 0).map Node.Holder.owner := by
        rw [← List.forall₂_eq_eq_eq, List.forall₂_map_left_iff, List.forall₂_map_right_iff]
        exact (ranks.imp fun _ _ same => same.symm).flip
    _ = n.parentPairs.map Prod.snd := by
        rw [Node.map_owner_holders, Node.parentPairs]

theorem relation_graph (visits : Visits ownLists none slot n before after calls)
    (names : ∀ call ∈ calls, call.name? = call.taken? ownLists) :
    (Call.graph calls).relation = n.parentPairs := by
  have distinct : (calls.filterMap Call.name?).Nodup := by
    rw [List.filterMap_congr names]
    exact visits.distinct
  rw [List.zip_of_prod (map_fst_relation_graph visits distinct)
    (map_snd_relation_graph visits distinct)]
  exact (List.zip_of_prod rfl rfl).symm

end Relation

/-! ## Encoders that let lists pass -/

section Silent

variable {σ : Type} {e : Encoder σ} (silent : ∀ parentId slot length session state,
  e.enterList parentId slot length session state = (none, session, state))

include silent

theorem allocates_of_silent : e.Allocates false := by
  intro parentId slot length session state
  rw [silent]
  rfl

theorem unnamed_recorded (start : σ) (root : Node) :
    ∀ call ∈ e.recorded start root, call.listId? = none := by
  refine e.forall_mem_calls (fun _ _ _ => rfl) (fun _ _ _ => rfl) ?_ (fun _ => rfl)
    (fun _ _ _ => rfl) none "root" root (Session.fresh, start)
  intro parentId slot length session state
  rw [silent]
  rfl

theorem nodes_recorded (start : σ) (root : Node) :
    (e.recorded start root).filterMap Call.node? = root.preorder :=
  (visits_calls (allocates_of_silent silent) none "root" root (Session.fresh, start)).visited

/-- Such an encoder numbers the nodes by their ranks. -/
theorem nodeIds_recorded (start : σ) (root : Node) :
    (e.recorded start root).filterMap Call.nodeId? = (List.range root.count).map nodeName := by
  have visits := visits_calls (allocates_of_silent silent) none "root" root (Session.fresh, start)
  have ids : (e.recorded start root).filterMap Call.nodeId? =
      (e.recorded start root).filterMap (Call.taken? false) := by
    refine List.filterMap_congr fun call _ => ?_
    cases call <;> rfl
  rw [ids, List.range_eq_range']
  exact visits.taken

/-- Where lists give nothing back, their items hang from the owner of the list. -/
theorem eq_nodeName_of_resolves {start : σ} {root : Node} {holder : Node.Holder}
    {parentId : String}
    (resolves : holder.Resolves (fun k => ((e.recorded start root).filterMap Call.nodeId?)[k]?)
      (fun k => ((e.recorded start root).filterMap Call.list?)[k]?) parentId) :
    parentId = nodeName holder.owner := by
  obtain ⟨ownerId, known, leads⟩ := resolves
  have owner : parentId = ownerId := by
    obtain ⟨_, _ | ⟨k, name⟩⟩ := holder
    · exact leads
    · obtain ⟨given, entered, rfl⟩ := leads
      obtain ⟨call, present, isCall⟩ := List.mem_filterMap.mp (List.mem_of_getElem? entered)
      have unnamed := unnamed_recorded silent start root call present
      cases call with
      | enterList =>
        cases isCall
        cases unnamed
        rfl
      | edge | node | leaveList | leaveNode => cases isCall
  have known : ((List.range root.count).map nodeName)[holder.owner]? = some ownerId := by
    rw [← nodeIds_recorded silent start]
    exact known
  rw [List.getElem?_map] at known
  obtain ⟨rank, found, rfl⟩ := Option.map_eq_some_iff.mp known
  obtain ⟨_, rfl⟩ := List.getElem?_eq_some_iff.mp found
  rw [owner, List.getElem_range]

/-- Such an encoder draws every edge from a node to its parent in the tree. -/
theorem edges_recorded (start : σ) (root : Node) :
    (e.recorded start root).filterMap Call.edge? =
      root.parentPairs.map fun pair => (nodeName pair.1, nodeName pair.2) := by
  have visits := visits_calls (allocates_of_silent silent) none "root" root (Session.fresh, start)
  obtain ⟨below, parents, resolved⟩ := visits.parents
  have children : ((e.recorded start root).filterMap Call.edge?).map Prod.fst =
      (root.parentPairs.map Prod.fst).map nodeName := by
    have drawn : ((e.recorded start root).filterMap Call.edge?).map Prod.fst =
        ((e.recorded start root).filterMap Call.nodeId?).drop 1 :=
      (map_fst_edges _).trans visits.children
    rw [drawn, nodeIds_recorded silent, ← List.map_drop, Node.parentPairs,
      Node.map_fst_childPairs, List.range_eq_range', List.drop_range', Node.count_eq,
      Nat.add_sub_cancel_left]
  have owners : ((e.recorded start root).filterMap Call.edge?).map Prod.snd =
      (root.parentPairs.map Prod.snd).map nodeName := by
    have drawn : ((e.recorded start root).filterMap Call.edge?).map Prod.snd = below :=
      (map_snd_edges _).trans parents
    rw [drawn, Node.parentPairs, ← Node.map_owner_holders, List.map_map, ← List.forall₂_eq_eq_eq,
      List.forall₂_map_right_iff]
    exact (resolved.imp fun _ _ resolves => eq_nodeName_of_resolves silent resolves).flip
  rw [List.zip_of_prod children owners, List.map_map, List.map_map, List.zip_map']
  rfl

end Silent

/-! ## Graphs by rank -/

theorem eq_nodeName_of_append {count : Nat} {front back : List String} {id : String}
    (numbered : front ++ id :: back = (List.range' 0 count).map nodeName) :
    id = nodeName front.length := by
  have here : (front ++ id :: back)[front.length]? = some id := by simp
  rw [numbered, List.getElem?_map] at here
  obtain ⟨k, found, rfl⟩ := Option.map_eq_some_iff.mp here
  obtain ⟨inside, rfl⟩ := List.getElem?_eq_some_iff.mp found
  rw [List.getElem_range', Nat.one_mul, Nat.zero_add]

/-- Names that count up beside the nodes in pre-order. -/
theorem eq_mapIdx_of_ranked {pairs : List (String × Node)} {root : Node}
    (ids : pairs.map Prod.fst = (List.range root.count).map nodeName)
    (nodes : pairs.map Prod.snd = root.preorder) :
    pairs = root.preorder.mapIdx fun k n => (nodeName k, n) := by
  rw [List.zip_of_prod ids nodes, ← Node.length_preorder]
  refine List.ext_getElem ?_ fun k inside inside' => ?_
  · simp
  · simp

theorem relation_of_ranked {α : Type} {g : Graph α} {root : Node}
    (ids : g.ids = (List.range root.count).map nodeName) (lists : g.lists = [])
    (edges : g.edges = root.parentPairs.map fun pair => (nodeName pair.1, nodeName pair.2)) :
    g.relation = root.parentPairs := by
  have rank {k : Nat} (inside : k < root.count) : g.ids.idxOf (nodeName k) = k := by
    refine idxOf_eq_of_getElem? ?_ ?_
    · rw [ids]
      exact List.nodup_range.map nodeName_injective
    · rw [ids, List.getElem?_map, List.getElem?_range inside]
      rfl
  have contracted : g.contracted = g.edges := by
    simp [Graph.contracted, Graph.owner, lists]
  rw [Graph.relation, contracted, edges, List.map_map]
  refine (List.map_congr_left fun pair present => ?_).trans (List.map_id _)
  have child : pair.1 < root.count := Node.lt_count_of_mem_parentPairs present
  have parent : pair.2 < pair.1 := Node.lt_of_mem_childPairs Nat.zero_lt_one present
  exact Prod.ext (rank child) (rank (Nat.lt_trans parent child))

end Encoder

end SyntaxExport
