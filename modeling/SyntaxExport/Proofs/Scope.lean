import Mathlib.Data.List.TakeWhile
import SyntaxExport.Encoder.Cypher
import SyntaxExport.Proofs.Graph
import SyntaxExport.Proofs.SlotNames

/-!
# The scope of the query script

Every node is created by a statement that carries on the identifiers in scope. An identifier joins
the scope with its node. It leaves the scope only when a node is done whose slot has that very name,
so which identifiers are in scope is read off the calls made so far. `Block` is all that is written
for a node, and `Block.text` spells it out.

Results:
1. `clauses_eq`: the scope of every statement, without a scope that is carried along.
2. `run_eq_blocks`: the script is one block for each node, with blank lines after each.
3. `relation_blocks`: the relationships of the blocks are the parent relation of the tree.
4. `script_blocks`: blocks and scopes of whole scripts.
-/

namespace SyntaxExport

namespace Session

/-- The name has the form of a node's identifier: the letter and then digits. -/
def looksNumbered (name : String) : Bool :=
  match name.toList with
  | 'n' :: d :: ds => (d :: ds).all Char.isDigit
  | _ => false

theorem looksNumbered_nodeName (k : Nat) : looksNumbered (nodeName k) = true := by
  have chars : (nodeName k).toList = 'n' :: Nat.toDigits 10 k := by
    rw [nodeName, String.toList_append, Decimal.toList_toString]
    rfl
  have digits := Decimal.isDigit_of_mem_toDigits k
  rw [looksNumbered, chars]
  cases spelled : Nat.toDigits 10 k with
  | nil => exact absurd spelled Nat.toDigits_ne_nil
  | cons d ds =>
    rw [spelled] at digits
    exact List.all_eq_true.mpr digits

end Session

open Session

namespace Encoder

namespace Call

/-- The call reaches the node with that identifier. -/
def reaches (id : String) : Call → Bool
  | .node id' _ _ => id' == id
  | _ => false

/-- The call leaves a node that stands under that name. -/
def leaves (name : String) : Call → Bool
  | .leaveNode _ slot _ => slot == name
  | _ => false

/-- The calls made before the node with that identifier is reached. -/
def before (calls : List Call) (id : String) : List Call :=
  calls.takeWhile fun call => !call.reaches id

/-- The calls made since the node with that identifier was reached. -/
def since (calls : List Call) (id : String) : List Call :=
  calls.dropWhile fun call => !call.reaches id

/-- The calls made from the first node on until the second is reached. -/
def between (calls : List Call) (first second : String) : List Call :=
  since (before calls second) first

theorem not_reaches_of_not_mem {calls : List Call} {id : String}
    (absent : id ∉ calls.filterMap nodeId?) : ∀ call ∈ calls, (!call.reaches id) = true := by
  intro call present
  cases call with
  | node id' slot n =>
    have other : id' ≠ id := by
      rintro rfl
      exact absent (List.mem_filterMap.mpr ⟨_, present, rfl⟩)
    simpa [reaches] using other
  | edge | enterList | leaveList | leaveNode => rfl

theorem before_eq {front back : List Call} {id slot : String} {n : Node}
    (absent : id ∉ front.filterMap nodeId?) :
    before (front ++ .node id slot n :: back) id = front := by
  rw [before, List.takeWhile_append_of_pos (not_reaches_of_not_mem absent),
    List.takeWhile_cons_of_neg (by simp [reaches]), List.append_nil]

end Call

namespace Cypher

/-! ## Blocks and clauses -/

/-- All that is written for a node: it is created, and related to its parent if it has one. -/
structure Block where
  scope : List String
  id : String
  slot : String
  node : Node
  parent : Option String

namespace Block

/-- The properties of the node: its type, if types are included, its slot and its attributes. -/
def properties (includeTypeName : Bool) (block : Block) : List (String × String) :=
  (if includeTypeName then [("type", block.node.typeName)] else []) ++
    ("name", Text.escapeQuery block.slot) ::
      block.node.attributes.map fun a => (Text.escapeQuery a.1, Text.escapeQuery a.2)

/-- The line that carries on the identifiers in scope and the clause that creates the node. -/
def creation (includeTypeName : Bool) (block : Block) : String :=
  "\nWITH " ++ ", ".intercalate block.scope ++
    "\nMERGE(" ++ block.id ++ ":Node:" ++ block.node.typeName ++ " \x7b\n" ++
    ",\n".intercalate ((block.properties includeTypeName).map fun p =>
      "  " ++ p.1 ++ ": '" ++ p.2 ++ "'") ++ "\n\x7d)"

/-- The text of a block. -/
def text (includeTypeName : Bool) (block : Block) : String :=
  block.creation includeTypeName ++
    match block.parent with
    | some parentId => "\nMERGE (" ++ parentId ++ ")<-[:PARENT]-(" ++ block.id ++ ")"
    | none => ""

theorem text_single (types : Bool) (scope : List String) (id slot : String) (n : Node) :
    text types ⟨scope, id, slot, n, none⟩ = creation types ⟨scope, id, slot, n, none⟩ :=
  String.append_empty

theorem text_related (types : Bool) (scope : List String) (id slot : String) (n : Node)
    (parentId : String) :
    text types ⟨scope, id, slot, n, some parentId⟩ =
      creation types ⟨scope, id, slot, n, none⟩ ++
        ("\nMERGE (" ++ parentId ++ ")<-[:PARENT]-(" ++ id ++ ")") :=
  rfl

end Block

/-- A clause: a node is created with these identifiers in scope, or related to its parent. -/
inductive Clause where
  | create (scope : List String) (id slot : String) (n : Node)
  | parent (parentId childId : String)

/-- The clauses written for calls. -/
def clauses (scope : List String) : List Call → List Clause
  | [] => []
  | .node id slot n :: rest =>
      let scope := if scope.contains id then scope else scope ++ [id]
      .create scope id slot n :: clauses scope rest
  | .edge _ parentId childId :: rest => .parent parentId childId :: clauses scope rest
  | .leaveNode _ slot _ :: rest => clauses (scope.filter (· != slot)) rest
  | .enterList .. :: rest => clauses scope rest
  | .leaveList _ :: rest => clauses scope rest

/-- The text of clauses. Blank lines stand after each node, before the next or at the end. -/
def text (includeTypeName : Bool) (written : Bool) : List Clause → String
  | [] => if written then "\n\n" else ""
  | .create scope id slot n :: rest =>
      (if written then "\n\n" else "") ++
        Block.creation includeTypeName ⟨scope, id, slot, n, none⟩ ++ text includeTypeName true rest
  | .parent parentId childId :: rest =>
      "\nMERGE (" ++ parentId ++ ")<-[:PARENT]-(" ++ childId ++ ")" ++
        text includeTypeName written rest

theorem nodeStatement_eq (types : Bool) (scope : List String) (id slot : String) (n : Node) :
    nodeStatement types scope id slot n = Block.creation types ⟨scope, id, slot, n, none⟩ := by
  have lines : properties types slot n =
      (Block.properties types ⟨scope, id, slot, n, none⟩).map fun p =>
        "  " ++ p.1 ++ ": '" ++ p.2 ++ "'" := by
    unfold properties Block.properties
    rw [List.map_append, List.map_cons, List.map_map]
    cases types <;> rfl
  unfold nodeStatement
  rw [lines]
  rfl

theorem out_separate (s : State) :
    s.separate.out = s.out ++ if s.written > 0 then "\n\n" else "" := by
  unfold State.separate
  split
  · rfl
  · exact String.append_empty.symm

theorem separate_foldl (types : Bool) (calls : List Call) (s : State) :
    (calls.foldl (cypher types).perform s).separate.out =
      s.out ++ text types (s.written > 0) (clauses s.scope calls) := by
  induction calls generalizing s with
  | nil =>
    rw [List.foldl_nil, out_separate, clauses, text]
    simp
  | cons call rest ih =>
    cases call with
    | node id slot n =>
      refine Eq.trans (ih (node types id slot n s)) ?_
      have scope : s.separate.scope = s.scope := by
        unfold State.separate
        split <;> rfl
      have later : decide ((node types id slot n s).written > 0) = true :=
        decide_eq_true (Nat.succ_pos _)
      rw [clauses, text, later, ← nodeStatement_eq]
      simp only [node, scope, out_separate, decide_eq_true_eq, String.append_assoc]
    | edge edgeId parentId childId =>
      refine Eq.trans (ih (edge edgeId parentId childId s)) ?_
      rw [clauses, text]
      simp only [edge, String.append_assoc]
    | leaveNode id slot n => exact ih { s with scope := s.scope.filter (· != slot) }
    | enterList | leaveList => exact ih s

theorem run_eq_text (types : Bool) (root : Node) :
    (cypher types).run .empty root =
      text types false (clauses [] ((cypher types).recorded .empty root)) := by
  rw [run_eq_finish]
  exact (separate_foldl types _ .empty).trans String.empty_append

/-! ## Identifiers in scope -/

/-- After the node with that identifier was reached, a node under a slot of that name was left. -/
def dropped (calls : List Call) (id : String) : Bool :=
  (Call.since calls id).any (Call.leaves id)

/-- The identifiers in scope after calls: those of the nodes reached, less those dropped since. -/
def inScope (calls : List Call) : List String :=
  (calls.filterMap Call.nodeId?).filter fun id => !dropped calls id

theorem dropped_of_not_mem {calls : List Call} {id : String}
    (absent : id ∉ calls.filterMap Call.nodeId?) : dropped calls id = false := by
  have nothing : Call.since calls id = [] :=
    List.dropWhile_eq_nil_iff.mpr (Call.not_reaches_of_not_mem absent)
  rw [dropped, nothing, List.any_nil]

theorem dropped_append {calls : List Call} {id : String}
    (reached : id ∈ calls.filterMap Call.nodeId?) (later : List Call) :
    dropped (calls ++ later) id = (dropped calls id || later.any (Call.leaves id)) := by
  have found : (Call.since calls id).isEmpty = false := by
    rw [Call.since, List.isEmpty_eq_false_iff, Ne, List.dropWhile_eq_nil_iff]
    intro none
    obtain ⟨call, present, named⟩ := List.mem_filterMap.mp reached
    cases call with
    | node id' slot n =>
      cases named
      simpa [Call.reaches] using none _ present
    | edge | enterList | leaveList | leaveNode => cases named
  have more : Call.since (calls ++ later) id = Call.since calls id ++ later := by
    rw [Call.since, List.dropWhile_append, if_neg]
    · rfl
    · rw [Call.since] at found
      simp [found]
  rw [dropped, dropped, more, List.any_append]

/-- A call that reaches no node drops the name that it leaves, if any. -/
theorem inScope_append_of_not_node {calls : List Call} {call : Call}
    (notNode : call.nodeId? = none) :
    inScope (calls ++ [call]) = (inScope calls).filter fun id => !call.leaves id := by
  have ids : (calls ++ [call]).filterMap Call.nodeId? = calls.filterMap Call.nodeId? := by
    rw [List.filterMap_append, List.filterMap_cons_none notNode, List.filterMap_nil,
      List.append_nil]
  rw [inScope, inScope, ids, List.filter_filter]
  refine List.filter_congr fun id reached => ?_
  rw [dropped_append reached, List.any_cons, List.any_nil, Bool.or_false, Bool.not_or,
    Bool.and_comm]

theorem inScope_append_node {calls : List Call} {id slot : String} {n : Node}
    (fresh : id ∉ calls.filterMap Call.nodeId?) :
    inScope (calls ++ [.node id slot n]) = inScope calls ++ [id] := by
  have ids : (calls ++ [Call.node id slot n]).filterMap Call.nodeId? =
      calls.filterMap Call.nodeId? ++ [id] :=
    List.filterMap_append
  have itself : dropped (calls ++ [.node id slot n]) id = false := by
    rw [dropped, Call.since, List.dropWhile_append_of_pos (Call.not_reaches_of_not_mem fresh),
      List.dropWhile_cons_of_neg (by simp [Call.reaches])]
    rfl
  rw [inScope, ids, List.filter_append, List.filter_singleton, itself]
  refine congrArg (· ++ [id]) (List.filter_congr fun earlier reached => ?_)
  rw [dropped_append reached, List.any_cons, List.any_nil, Bool.or_false]
  exact congrArg Bool.not (Bool.or_false _)

theorem contains_inScope_of_fresh {calls : List Call} {id : String}
    (fresh : id ∉ calls.filterMap Call.nodeId?) : (inScope calls).contains id = false := by
  rw [List.contains_eq_mem, decide_eq_false_iff_not]
  exact fun present => fresh (List.mem_of_mem_filter present)

/-! ## Clauses without a state -/

/-- The clause of a call among all calls. -/
def clause? (calls : List Call) : Call → Option Clause
  | .node id slot n => some (.create (inScope (Call.before calls id) ++ [id]) id slot n)
  | .edge _ parentId childId => some (.parent parentId childId)
  | _ => none

theorem clauses_inScope (front back : List Call)
    (distinct : ((front ++ back).filterMap Call.nodeId?).Nodup) :
    clauses (inScope front) back = back.filterMap (clause? (front ++ back)) := by
  induction back generalizing front with
  | nil => rfl
  | cons call rest ih =>
    have next := ih (front ++ [call]) (by rwa [List.append_assoc])
    rw [List.append_assoc, List.singleton_append] at next
    cases call with
    | node id slot n =>
      have fresh : id ∉ front.filterMap Call.nodeId? := by
        rw [List.filterMap_append] at distinct
        intro early
        exact (List.nodup_append.mp distinct).2.2 id early id (List.mem_cons_self ..) rfl
      rw [inScope_append_node fresh] at next
      rw [clauses, contains_inScope_of_fresh fresh, List.filterMap_cons_some (b := .create
        (inScope front ++ [id]) id slot n) (by rw [clause?, Call.before_eq fresh])]
      exact congrArg _ next
    | edge edgeId parentId childId =>
      rw [inScope_append_of_not_node rfl] at next
      simp only [Call.leaves, Bool.not_false, List.filter_true] at next
      exact congrArg _ next
    | leaveNode id slot n =>
      rw [inScope_append_of_not_node rfl] at next
      rw [clauses]
      refine Eq.trans ?_ next
      refine congrArg (clauses · rest) (List.filter_congr fun id _ => ?_)
      rw [Call.leaves, bne, Bool.beq_comm]
    | enterList | leaveList =>
      rw [inScope_append_of_not_node rfl] at next
      simp only [Call.leaves, Bool.not_false, List.filter_true] at next
      exact next

theorem clauses_eq {calls : List Call} (distinct : (calls.filterMap Call.nodeId?).Nodup) :
    clauses [] calls = calls.filterMap (clause? calls) :=
  clauses_inScope [] calls distinct

/-! ## Blocks without a state -/

/-- The block of a call among all calls. -/
def block? (calls : List Call) : Call → Option Block
  | .node id slot n =>
      some ⟨inScope (Call.before calls id) ++ [id], id, slot, n,
        (calls.filterMap Call.edge?).lookup id⟩
  | _ => none

/-- The blocks of calls, one for each node that they reach. -/
def blocks (calls : List Call) : List Block :=
  calls.filterMap (block? calls)

/-- Blocks after a first one. Each node stands before its edge, so a block is complete when the next
one starts. -/
theorem append_text_eq (types : Bool) {calls later : List Call} (paired : Paired later)
    (parents : ∀ edgeId parentId childId, .edge edgeId parentId childId ∈ later →
      (calls.filterMap Call.edge?).lookup childId = some parentId) (first : Block) :
    first.text types ++ text types true (later.filterMap (clause? calls)) =
      "\n\n".intercalate ((first :: later.filterMap (block? calls)).map (Block.text types)) ++
        "\n\n" := by
  induction paired generalizing first with
  | nil =>
    rw [List.filterMap_nil, List.filterMap_nil, List.map_singleton, String.intercalate_singleton]
    rfl
  | @node id slot n edgeId parentId rest _ ih =>
    have related := parents edgeId parentId id (List.mem_cons_of_mem _ (List.mem_cons_self ..))
    have next := ih (fun _ _ _ present => parents _ _ _
      (List.mem_cons_of_mem _ (List.mem_cons_of_mem _ present)))
      ⟨inScope (Call.before calls id) ++ [id], id, slot, n, some parentId⟩
    have block : block? calls (.node id slot n) =
        some ⟨inScope (Call.before calls id) ++ [id], id, slot, n, some parentId⟩ := by
      rw [block?, related]
    have here : (Call.node id slot n :: Call.edge edgeId parentId id :: rest).filterMap
        (clause? calls) = .create (inScope (Call.before calls id) ++ [id]) id slot n ::
          .parent parentId id :: rest.filterMap (clause? calls) := rfl
    have blocks : (Call.node id slot n :: Call.edge edgeId parentId id :: rest).filterMap
        (block? calls) = ⟨inScope (Call.before calls id) ++ [id], id, slot, n, some parentId⟩ ::
          rest.filterMap (block? calls) := by
      rw [List.filterMap_cons_some block]
      rfl
    rw [here, blocks, List.map_cons, List.map_cons, String.intercalate_cons_cons,
      String.append_assoc, String.append_assoc, ← List.map_cons, ← next, text, text, if_pos rfl]
    simp only [Block.text_related, String.append_assoc]
  | enterList _ ih | leaveList _ ih | leaveNode _ ih =>
    exact ih (fun _ _ _ present => parents _ _ _ (List.mem_cons_of_mem _ present)) first

/-- The text of clauses is that of the blocks, where the first node alone has no parent. -/
theorem text_clauses_eq (types : Bool) {calls below : List Call} {id slot : String} {n : Node}
    (split : calls = .node id slot n :: below)
    (distinct : (calls.filterMap Call.nodeId?).Nodup) (paired : Paired below)
    (top : (calls.filterMap Call.edge?).lookup id = none)
    (parents : ∀ edgeId parentId childId, .edge edgeId parentId childId ∈ below →
      (calls.filterMap Call.edge?).lookup childId = some parentId) :
    text types false (clauses [] calls) =
      "\n\n".intercalate ((blocks calls).map (Block.text types)) ++ "\n\n" := by
  have start : Call.before calls id = [] := by
    rw [split, Call.before]
    exact List.takeWhile_cons_of_neg (by simp [Call.reaches])
  have clauses : calls.filterMap (clause? calls) =
      .create [id] id slot n :: below.filterMap (clause? calls) := by
    nth_rewrite 2 [split]
    refine List.filterMap_cons_some ?_
    rw [clause?, start]
    rfl
  have blocks : blocks calls =
      ⟨[id], id, slot, n, none⟩ :: below.filterMap (block? calls) := by
    rw [Cypher.blocks]
    nth_rewrite 2 [split]
    refine List.filterMap_cons_some ?_
    rw [block?, start, top]
    rfl
  rw [clauses_eq distinct, clauses, blocks, ← append_text_eq types paired parents, text,
    Block.text_single, if_neg Bool.false_ne_true, String.empty_append]

/-! ## Whole scripts -/

section Recorded

variable (types : Bool) (root : Node)

theorem nodeIds_script : ((cypher types).recorded .empty root).filterMap Call.nodeId? =
    (List.range root.count).map nodeName :=
  nodeIds_recorded (e := cypher types) (fun _ _ _ _ _ => rfl) .empty root

theorem edges_script : ((cypher types).recorded .empty root).filterMap Call.edge? =
    root.parentPairs.map fun pair => (nodeName pair.1, nodeName pair.2) :=
  edges_recorded (e := cypher types) (fun _ _ _ _ _ => rfl) .empty root

theorem nodup_nodeIds_script :
    (((cypher types).recorded .empty root).filterMap Call.nodeId?).Nodup := by
  rw [nodeIds_script]
  exact List.nodup_range.map nodeName_injective

theorem lookup_map_nodeName (pairs : List (Nat × Nat)) (k : Nat) :
    (pairs.map fun pair => (nodeName pair.1, nodeName pair.2)).lookup (nodeName k) =
      (pairs.lookup k).map nodeName := by
  induction pairs with
  | nil => rfl
  | cons pair rest ih =>
    have same : (nodeName k == nodeName pair.1) = (k == pair.1) := by
      rw [Bool.eq_iff_iff, beq_iff_eq, beq_iff_eq, nodeName_injective.eq_iff]
    rw [List.map_cons, List.lookup_cons, List.lookup_cons, same, ih]
    cases k == pair.1 <;> rfl

theorem map_fst_links :
    (root.parentPairs.map fun pair => (nodeName pair.1, nodeName pair.2)).map Prod.fst =
      (List.range' 1 (Node.total root.children)).map nodeName := by
  rw [← Node.map_fst_childPairs 0, List.map_map, List.map_map]
  rfl

/-- The edges of a script lead where the tree says. -/
theorem lookup_edges_script (k : Nat) :
    (((cypher types).recorded .empty root).filterMap Call.edge?).lookup (nodeName k) =
      (root.parentPairs.lookup k).map nodeName := by
  rw [edges_script, lookup_map_nodeName]

theorem lookup_parentPairs_zero : root.parentPairs.lookup 0 = none := by
  rw [List.lookup_eq_none_iff]
  rintro ⟨child, parent⟩ present
  have positive : parent < child := Node.lt_of_mem_childPairs Nat.zero_lt_one present
  simpa using (Nat.ne_of_gt (Nat.zero_lt_of_lt positive)).symm

theorem lookup_edge_of_mem {edgeId parentId childId : String}
    (present : .edge edgeId parentId childId ∈ (cypher types).recorded .empty root) :
    (((cypher types).recorded .empty root).filterMap Call.edge?).lookup childId =
      some parentId := by
  refine lookup_eq_some_of_mem ?_ (List.mem_filterMap.mpr ⟨_, present, rfl⟩)
  rw [edges_script, map_fst_links]
  exact nodup_map_nodeName _ _

/-- The script is the text of its blocks, with blank lines between them and at the end. -/
theorem run_eq_blocks : (cypher types).run .empty root =
    "\n\n".intercalate ((blocks ((cypher types).recorded .empty root)).map (Block.text types)) ++
      "\n\n" := by
  have visits := visits_calls (e := cypher types) (allocates_of_silent fun _ _ _ _ _ => rfl) none
    "root" root (Session.fresh, .empty)
  obtain ⟨below, split, paired⟩ := visits.paired
  have split : (cypher types).recorded .empty root = .node (nodeName 0) "root" root :: below :=
    split
  have top : (((cypher types).recorded .empty root).filterMap Call.edge?).lookup (nodeName 0) =
      none := by
    rw [lookup_edges_script, lookup_parentPairs_zero]
    rfl
  have parents : ∀ edgeId parentId childId, .edge edgeId parentId childId ∈ below →
      (((cypher types).recorded .empty root).filterMap Call.edge?).lookup childId =
        some parentId := by
    intro edgeId parentId childId present
    have recorded : .edge edgeId parentId childId ∈ (cypher types).recorded .empty root := by
      rw [split]
      exact List.mem_cons_of_mem _ present
    exact lookup_edge_of_mem types root recorded
  rw [run_eq_text, text_clauses_eq types split (nodup_nodeIds_script types root) paired top parents]

end Recorded

theorem map_node_blocks (calls : List Call) :
    (blocks calls).map Block.node = calls.filterMap Call.node? := by
  rw [blocks, List.map_filterMap]
  refine List.filterMap_congr fun call _ => ?_
  cases call <;> rfl

theorem map_id_blocks (calls : List Call) :
    (blocks calls).map Block.id = calls.filterMap Call.nodeId? := by
  rw [blocks, List.map_filterMap]
  refine List.filterMap_congr fun call _ => ?_
  cases call <;> rfl

/-! ## The graph of the blocks -/

/-- The graph of blocks: their nodes, and edges from node to parent. -/
def graph (script : List Block) : Graph Node where
  nodes := script.map fun block => (block.id, block.node)
  lists := []
  edges := script.filterMap fun block => block.parent.map (Prod.mk block.id)

/-- Distinct keys, looked up one after the other, give the pairs back. -/
theorem filterMap_lookup {edges : List (String × String)} (distinct : (edges.map Prod.fst).Nodup) :
    ((edges.map Prod.fst).filterMap fun id => (edges.lookup id).map (Prod.mk id)) = edges := by
  rw [List.filterMap_map]
  refine Eq.trans (List.filterMap_congr fun edge present => ?_) List.filterMap_some
  show (edges.lookup edge.1).map (Prod.mk edge.1) = some edge
  rw [lookup_eq_some_of_mem distinct present]
  rfl

section Graphs

variable (types : Bool) (root : Node)

theorem nodes_blocks :
    (blocks ((cypher types).recorded .empty root)).map Block.node = root.preorder :=
  (map_node_blocks _).trans
    (nodes_recorded (e := cypher types) (fun _ _ _ _ _ => rfl) .empty root)

theorem ids_blocks : (graph (blocks ((cypher types).recorded .empty root))).ids =
    (List.range root.count).map nodeName := by
  rw [← nodeIds_script types, ← map_id_blocks, Graph.ids, graph, List.map_map]
  rfl

theorem nodes_graph_blocks : (graph (blocks ((cypher types).recorded .empty root))).nodes =
    root.preorder.mapIdx fun k n => (nodeName k, n) := by
  refine eq_mapIdx_of_ranked (ids_blocks types root) ?_
  rw [← nodes_blocks types, graph, List.map_map]
  rfl

theorem edges_blocks : (graph (blocks ((cypher types).recorded .empty root))).edges =
    root.parentPairs.map fun pair => (nodeName pair.1, nodeName pair.2) := by
  have read : (graph (blocks ((cypher types).recorded .empty root))).edges =
      (((cypher types).recorded .empty root).filterMap Call.nodeId?).filterMap fun id =>
        ((((cypher types).recorded .empty root).filterMap Call.edge?).lookup id).map
          (Prod.mk id) := by
    rw [graph, blocks, List.filterMap_filterMap, List.filterMap_filterMap]
    refine List.filterMap_congr fun call _ => ?_
    cases call <;> rfl
  have ids : (List.range root.count).map nodeName = nodeName 0 ::
      (root.parentPairs.map fun pair => (nodeName pair.1, nodeName pair.2)).map Prod.fst := by
    rw [map_fst_links, Node.count_eq, Nat.add_comm, List.range_eq_range', List.range'_succ]
    rfl
  have distinct :
      ((root.parentPairs.map fun pair => (nodeName pair.1, nodeName pair.2)).map
        Prod.fst).Nodup := by
    rw [map_fst_links]
    exact nodup_map_nodeName _ _
  -- the first node has no parent, and every other one is the child of its own edge
  rw [read, nodeIds_script, edges_script, ids, List.filterMap_cons_none, filterMap_lookup distinct]
  rw [lookup_map_nodeName, lookup_parentPairs_zero]
  rfl

theorem relation_blocks :
    (graph (blocks ((cypher types).recorded .empty root))).relation = root.parentPairs :=
  relation_of_ranked (ids_blocks types root) rfl (edges_blocks types root)

end Graphs

/-! ## Scopes by rank -/

theorem block_eq_of_mem {calls : List Call} {block : Block} (present : block ∈ blocks calls) :
    block.scope = inScope (Call.before calls block.id) ++ [block.id] ∧
      block.parent = (calls.filterMap Call.edge?).lookup block.id := by
  obtain ⟨call, _, written⟩ := List.mem_filterMap.mp present
  cases call with
  | node id slot n =>
    cases written
    exact ⟨rfl, rfl⟩
  | edge | enterList | leaveList | leaveNode => cases written

section Numbered

variable {calls : List Call} {count : Nat}
  (numbered : calls.filterMap Call.nodeId? = (List.range count).map nodeName)

include numbered

/-- The nodes reached before a node are those with smaller numbers. -/
theorem nodeIds_before {k : Nat} (inside : k < count) :
    (Call.before calls (nodeName k)).filterMap Call.nodeId? = (List.range k).map nodeName := by
  have reached : nodeName k ∈ calls.filterMap Call.nodeId? := by
    rw [numbered]
    exact List.mem_map_of_mem (List.mem_range.mpr inside)
  obtain ⟨call, present, named⟩ := List.mem_filterMap.mp reached
  obtain ⟨front, back, rfl⟩ := List.append_of_mem present
  cases call with
  | node id slot n =>
    cases named
    have numbered : front.filterMap Call.nodeId? ++ nodeName k :: back.filterMap Call.nodeId? =
        (List.range count).map nodeName := by
      rw [← numbered, List.filterMap_append]
      rfl
    have rank : k = (front.filterMap Call.nodeId?).length := by
      rw [List.range_eq_range'] at numbered
      exact nodeName_injective (eq_nodeName_of_append numbered)
    have distinct : (front.filterMap Call.nodeId? ++
        nodeName k :: back.filterMap Call.nodeId?).Nodup := by
      rw [numbered]
      exact List.nodup_range.map nodeName_injective
    have absent : nodeName k ∉ front.filterMap Call.nodeId? := by
      intro early
      exact (List.nodup_append.mp distinct).2.2 _ early _ (List.mem_cons_self ..) rfl
    have taken := congrArg (List.take k) numbered
    nth_rewrite 1 [rank] at taken
    rw [List.take_left, ← List.map_take, List.take_range, Nat.min_eq_left inside.le] at taken
    rw [Call.before_eq absent, taken]
  | edge | enterList | leaveList | leaveNode => cases named

/-- The scope of a block: the numbers up to its own, less those dropped since. -/
theorem scope_of_getElem? {k : Nat} {block : Block} (found : (blocks calls)[k]? = some block) :
    block.id = nodeName k ∧
      block.scope = ((List.range (k + 1)).filter fun j =>
        !(Call.between calls (nodeName j) (nodeName k)).any (Call.leaves (nodeName j))).map
          nodeName := by
  have named : ((List.range count).map nodeName)[k]? = some block.id := by
    rw [← numbered, ← map_id_blocks, List.getElem?_map, found]
    rfl
  rw [List.getElem?_map] at named
  obtain ⟨rank, place, same⟩ := Option.map_eq_some_iff.mp named
  obtain ⟨inside, rfl⟩ := List.getElem?_eq_some_iff.mp place
  rw [List.length_range] at inside
  rw [List.getElem_range] at same
  refine ⟨same.symm, ?_⟩
  have earlier := nodeIds_before numbered inside
  have itself : (Call.between calls (nodeName k) (nodeName k)).any (Call.leaves (nodeName k)) =
      false := by
    refine dropped_of_not_mem ?_
    rw [earlier, List.mem_map_of_injective nodeName_injective, List.mem_range]
    exact Nat.lt_irrefl k
  rw [(block_eq_of_mem (List.mem_of_getElem? found)).1, ← same, inScope, earlier, List.range_succ,
    List.filter_append, List.map_append, List.filter_map, List.filter_singleton, itself]
  rfl

/-- Where no node is left under a name that looks like an identifier, all identifiers stay. -/
theorem scope_of_plain {k : Nat} {block : Block}
    (plain : Under (fun name => looksNumbered name = false) calls)
    (found : (blocks calls)[k]? = some block) :
    block.scope = (List.range (k + 1)).map nodeName := by
  rw [(scope_of_getElem? numbered found).2]
  refine congrArg (List.map nodeName) (List.filter_eq_self.mpr fun j _ => ?_)
  rw [Bool.not_eq_true', List.any_eq_false]
  intro call present left
  have recorded : call ∈ calls :=
    (List.takeWhile_sublist _).subset ((List.dropWhile_sublist _).subset present)
  cases call with
  | leaveNode id slot n =>
    have different := plain slot (List.mem_filterMap.mpr ⟨_, recorded, rfl⟩)
    rw [show slot = nodeName j from beq_iff_eq.mp left, looksNumbered_nodeName] at different
    cases different
  | node | edge | enterList | leaveList => cases left

end Numbered

/-- The script of a tree has one block for each node, in pre-order and numbered by rank, with blank
lines between the blocks and at the end. A block carries on all numbers up to its own but those
under whose very name a node was left in the meantime. If no slot has a name of that form, nothing
is lost, and both ends of each relationship are in scope. -/
theorem script_blocks (types : Bool) (root : Node) :
    let calls := (cypher types).recorded .empty root
    (cypher types).run .empty root =
        "\n\n".intercalate ((blocks calls).map (Block.text types)) ++ "\n\n" ∧
      (blocks calls).map Block.node = root.preorder ∧
      (∀ k block, (blocks calls)[k]? = some block →
        block.id = nodeName k ∧
        block.parent = (root.parentPairs.lookup k).map nodeName ∧
        block.scope = ((List.range (k + 1)).filter fun j =>
          !(Call.between calls (nodeName j) (nodeName k)).any (Call.leaves (nodeName j))).map
            nodeName) ∧
      ((∀ name ∈ root.slots, looksNumbered name = false) →
        ∀ k block, (blocks calls)[k]? = some block →
          block.scope = (List.range (k + 1)).map nodeName ∧
          ∀ parentId, block.parent = some parentId →
            parentId ∈ block.scope ∧ block.id ∈ block.scope) := by
  intro calls
  have numbered := nodeIds_script types root
  have parents {k : Nat} {block : Block} (found : (blocks calls)[k]? = some block) :
      block.parent = (root.parentPairs.lookup k).map nodeName := by
    rw [(block_eq_of_mem (List.mem_of_getElem? found)).2, (scope_of_getElem? numbered found).1]
    exact lookup_edges_script types root k
  refine ⟨run_eq_blocks types root, ?_, ?_, ?_⟩
  · exact nodes_blocks types root
  · intro k block found
    obtain ⟨id, scope⟩ := scope_of_getElem? numbered found
    exact ⟨id, parents found, scope⟩
  · intro plain k block found
    have kept : Under (fun name => looksNumbered name = false) calls :=
      under_walk _ root none "root" _ (by decide) plain
    have scope := scope_of_plain numbered kept found
    refine ⟨scope, fun parentId related => ?_⟩
    rw [parents found] at related
    obtain ⟨parent, known, rfl⟩ := Option.map_eq_some_iff.mp related
    have earlier : parent < k := Node.lt_of_lookup_parentPairs known
    rw [scope, (scope_of_getElem? numbered found).1]
    exact ⟨List.mem_map_of_mem (List.mem_range.mpr (by omega)),
      List.mem_map_of_mem (List.mem_range.mpr (Nat.lt_succ_self k))⟩

/-- Names that come close to an identifier, in slots, in a list and below both. -/
theorem script_blocks_close_names :
    let leaf : Node := .mk { typeName := "Leaf" } [] []
    let inner : Node := .mk { typeName := "Inner" } [("n", some leaf)] [("n0xs", [leaf, leaf])]
    let tree : Node := .mk { typeName := "Tree" } [("name", some inner), ("e0", none)]
      [("ns", [leaf, inner])]
    (∀ name ∈ tree.slots, looksNumbered name = false) ∧
      ∀ k block, (blocks ((cypher true).recorded .empty tree))[k]? = some block →
        block.scope = (List.range (k + 1)).map nodeName ∧
        ∀ parentId, block.parent = some parentId →
          parentId ∈ block.scope ∧ block.id ∈ block.scope := by
  intro leaf inner tree
  have leafPlain : ∀ name ∈ leaf.slots, looksNumbered name = false := by
    rw [Node.forall_mem_slots]
    decide
  have innerPlain : ∀ name ∈ inner.slots, looksNumbered name = false := by
    rw [Node.forall_mem_slots]
    refine ⟨by decide, ?_⟩
    simpa [inner, Node.children, Node.singular, Node.lists] using leafPlain
  have plain : ∀ name ∈ tree.slots, looksNumbered name = false := by
    rw [Node.forall_mem_slots]
    refine ⟨by decide, ?_⟩
    simpa [tree, Node.children, Node.singular, Node.lists] using ⟨innerPlain, leafPlain, innerPlain⟩
  exact ⟨plain, (script_blocks true tree).2.2.2 plain⟩

end Cypher

end Encoder

end SyntaxExport
