import SyntaxExport.Proofs.Picture

/-!
# The drawing of a tree

The graph description is written with a colour that is carried along from node to edge and with
identifiers that nodes and lists share. `Dot.draw` says what is written without either: a recursion
on the tree that is told only the first free number. A subtree takes as many numbers as it has nodes
and lists that are not empty.

Results:
1. `statements_recorded`: the statements of a walk are the drawing of the tree.
2. `hung_below_top`: numbers stand in a row, and all but the first have one edge.
3. `hangsFrom_draw`: items hang from the list of their slot, and lists from their owner.
4. `typeLine_ne_empty_iff`: which statements say something of types.
5. `drawing_complete`: these facts for whole documents, with any way to find types.
-/

namespace SyntaxExport

open Session

namespace Node

/-- How many identifiers a tree takes where each list has one. -/
def width (n : Node) : Nat :=
  n.count + n.listCount

/-- How many identifiers several trees take. -/
def widths : List Node → Nat
  | [] => 0
  | n :: rest => n.width + widths rest

theorem widths_cons (n : Node) (rest : List Node) :
    widths (n :: rest) = n.width + widths rest := rfl

theorem widths_eq (nodes : List Node) :
    widths nodes = (nodes.flatMap preorder).length + filledIn (nodes.flatMap preorder) := by
  induction nodes with
  | nil => rfl
  | cons n rest ih =>
    rw [widths_cons, ih, width, listCount, ← length_preorder, List.flatMap_cons,
      List.length_append, filledIn_append]
    omega

theorem widths_append (front back : List Node) :
    widths (front ++ back) = widths front + widths back := by
  induction front with
  | nil => exact (Nat.zero_add _).symm
  | cons n rest ih => rw [List.cons_append, widths_cons, widths_cons, ih, Nat.add_assoc]

theorem width_mk (info : NodeInfo) (singular : List (String × Option Node))
    (lists : List (String × List Node)) :
    (mk info singular lists).width =
      widths (singular.filterMap Prod.snd) + (filled lists + widths (lists.flatMap Prod.snd)) +
        1 := by
  have below : (mk info singular lists).children =
      singular.filterMap Prod.snd ++ lists.flatMap Prod.snd := rfl
  have own : (mk info singular lists).lists = lists := rfl
  have both := widths_eq (singular.filterMap Prod.snd ++ lists.flatMap Prod.snd)
  rw [widths_append] at both
  rw [width, ← length_preorder, listCount, preorder_eq, List.length_cons, filledIn_cons, own, below]
  omega

end Node

namespace Encoder.Dot

/-! ## The drawing -/

mutual

/-- The statements of a node and all below it. The node takes the number `next`. -/
def draw (parent : Option String) (slot : String) (next : Nat) : Node → List Statement
  | .mk info singular lists =>
      .node (nodeName next) slot (.mk info singular lists) ::
        (parent.toList.map fun parentId =>
          .edge parentId (nodeName next) (paint slot (.mk info singular lists))) ++
        (drawSingular (nodeName next) (next + 1) singular ++
          drawLists (nodeName next) (next + 1 + Node.widths (singular.filterMap Prod.snd)) lists)

/-- The statements of children in single slots, which hang from their owner. -/
def drawSingular (ownerId : String) (next : Nat) :
    List (String × Option Node) → List Statement
  | [] => []
  | (_, none) :: rest => drawSingular ownerId next rest
  | (slot, some n) :: rest =>
      draw (some ownerId) slot next n ++ drawSingular ownerId (next + n.width) rest

/-- The statements of lists that are not empty. A list takes a number and hangs from its owner, and
its items hang from the list. -/
def drawLists (ownerId : String) (next : Nat) : List (String × List Node) → List Statement
  | [] => []
  | (slot, items) :: rest =>
      if items.isEmpty then drawLists ownerId next rest
      else
        .list (nodeName next) slot :: .edge ownerId (nodeName next) "OrangeRed" ::
          (drawItems (nodeName next) (Text.singularize slot) (next + 1) items ++
            drawLists ownerId (next + 1 + Node.widths items) rest)

/-- The statements of the items of a list. -/
def drawItems (listId slot : String) (next : Nat) : List Node → List Statement
  | [] => []
  | n :: rest => draw (some listId) slot next n ++ drawItems listId slot (next + n.width) rest

end

/-! ## Statements of paired calls -/

/-- Where every edge follows its node, no colour comes from before. -/
theorem statements_eq_of_paired {calls : List Call} (paired : Paired calls) (last last' : String) :
    statements last calls = statements last' calls := by
  induction paired with
  | nil => rfl
  | node _ _ => rfl
  | enterList _ ih => exact congrArg (fun rest => _ :: _ :: rest) ih
  | leaveList _ ih | leaveNode _ ih => exact ih

theorem statements_append {back : List Call} (paired : Paired back) (last : String)
    (front : List Call) :
    statements last (front ++ back) = statements last front ++ statements last back := by
  induction front generalizing last with
  | nil => rfl
  | cons call rest ih =>
    cases call with
    | node id slot n =>
      have next := ih (paint slot n)
      rw [statements_eq_of_paired paired (paint slot n) last] at next
      exact congrArg (List.cons _) next
    | edge => exact congrArg (List.cons _) (ih last)
    | enterList => exact congrArg (fun rest => _ :: _ :: rest) (ih last)
    | leaveList | leaveNode => exact ih last

/-! ## The drawing is what a walk writes -/

section Walks

variable (types : Bool) (resolve : Node → Option String)

theorem nodes_walk (n : Node) (parentId slot : String) (s : Session × State) :
    ((dot types resolve).walk (some parentId) slot n s).1.nodes = s.1.nodes + n.width := by
  rw [(stretch_walk (allocates_dot types resolve) n parentId slot s).after_eq, Node.length_preorder]
  rfl

theorem nodes_walkSingular (singular : List (String × Option Node)) (id : String)
    (s : Session × State) :
    ((dot types resolve).walkSingular id singular s).1.nodes =
      s.1.nodes + Node.widths (singular.filterMap Prod.snd) := by
  rw [(stretch_walkSingular (allocates_dot types resolve) singular id s).after_eq, Node.widths_eq]
  rfl

theorem nodes_walkItems (items : List Node) (parentId slot : String) (s : Session × State) :
    ((dot types resolve).walkItems parentId slot items s).1.nodes =
      s.1.nodes + Node.widths items := by
  rw [(stretch_walkItems (allocates_dot types resolve) items parentId slot s).after_eq,
    Node.widths_eq]
  rfl

theorem statements_arrive (parent : Option String) (slot : String) (n : Node) (session : Session)
    (last : String) :
    statements last (callsArrive parent slot n session) =
      .node (nodeName session.nodes) slot n ::
        parent.toList.map fun parentId =>
          .edge parentId (nodeName session.nodes) (paint slot n) := by
  cases parent <;> rfl

theorem statements_leave {calls : List Call} (last : String) (id slot : String) (n : Node) :
    statements last (calls ++ [.leaveNode id slot n]) = statements last calls := by
  rw [statements_append (.leaveNode .nil), statements, statements, List.append_nil]

mutual

theorem statements_walk : (n : Node) → (parent : Option String) → (slot : String) →
    (s : Session × State) → (last : String) →
    statements last ((dot types resolve).calls parent slot n s) = draw parent slot s.1.nodes n
  | .mk info singular lists, parent, slot, s, last => by
    have below := stretch_descend (allocates_dot types resolve) s.1.nextNode.1 slot
      (.mk info singular lists) ((dot types resolve).arrive parent slot (.mk info singular lists) s)
    have listed := stretch_walkLists (allocates_dot types resolve)
      (Node.mk info singular lists).lists s.1.nextNode.1
      ((dot types resolve).walkSingular s.1.nextNode.1 (Node.mk info singular lists).singular
        ((dot types resolve).arrive parent slot (.mk info singular lists) s))
    have arrived :
        ((dot types resolve).arrive parent slot (.mk info singular lists) s).1.nodes =
          s.1.nodes + 1 := by
      cases parent <;> rfl
    rw [calls_eq, statements_append below.paired, statements_arrive, callsDescend,
      statements_leave, statements_append listed.paired]
    have single := statements_walkSingular singular s.1.nextNode.1
      ((dot types resolve).arrive parent slot (.mk info singular lists) s) last
    have lists := statements_walkLists lists s.1.nextNode.1
      ((dot types resolve).walkSingular s.1.nextNode.1 singular
        ((dot types resolve).arrive parent slot (.mk info singular lists) s)) last
    rw [arrived] at single
    rw [nodes_walkSingular, arrived] at lists
    rw [draw, List.cons_append, List.cons_append]
    exact congrArg _ (congrArg _ (congrArg₂ _ single lists))

theorem statements_walkSingular : (singular : List (String × Option Node)) → (id : String) →
    (s : Session × State) → (last : String) →
    statements last ((dot types resolve).callsSingular id singular s) =
      drawSingular id s.1.nodes singular
  | [], id, s, last => by
    rw [callsSingular, walkSingular, drawSingular, statements]
  | (_, none) :: rest, id, s, last => by
    rw [callsSingular, walkSingular, drawSingular]
    exact statements_walkSingular rest id s last
  | (slot, some n) :: rest, id, s, last => by
    have later := stretch_walkSingular (allocates_dot types resolve) rest id
      ((dot types resolve).walk (some id) slot n s)
    rw [callsSingular_some, statements_append later.paired, statements_walk n,
      statements_walkSingular rest, nodes_walk, drawSingular]

theorem statements_walkLists : (lists : List (String × List Node)) → (id : String) →
    (s : Session × State) → (last : String) →
    statements last ((dot types resolve).callsLists id lists s) = drawLists id s.1.nodes lists
  | [], id, s, last => by
    rw [callsLists, walkLists, drawLists, statements]
  | (slot, []) :: rest, id, s, last => by
    rw [callsLists, walkLists_cons, drawLists]
    exact statements_walkLists rest id s last
  | (slot, n :: items) :: rest, id, s, last => by
    have later := stretch_walkLists (allocates_dot types resolve) rest id
      ((dot types resolve).visitList id slot (n :: items) s)
    have listed := statements_walkItems (n :: items) s.1.nextNode.1 (Text.singularize slot)
      ((dot types resolve).enterList id slot (n :: items).length s.1 s.2).2 last
    have rest := statements_walkLists rest id
      ((dot types resolve).visitList id slot (n :: items) s) last
    have visited : ((dot types resolve).visitList id slot (n :: items) s).1.nodes =
        s.1.nodes + 1 + Node.widths (n :: items) :=
      nodes_walkItems types resolve (n :: items) s.1.nextNode.1 (Text.singularize slot) _
    rw [visited] at rest
    have filled : ¬ (n :: items).isEmpty = true := Bool.false_ne_true
    rw [callsLists_cons _ id slot rfl, statements_append (.leaveList later.paired), statements,
      drawLists, if_neg filled]
    exact congrArg (fun rest => _ :: _ :: rest) (congrArg₂ _ listed rest)

theorem statements_walkItems : (items : List Node) → (parentId slot : String) →
    (s : Session × State) → (last : String) →
    statements last ((dot types resolve).callsItems parentId slot items s) =
      drawItems parentId slot s.1.nodes items
  | [], parentId, slot, s, last => by
    rw [callsItems, walkItems, drawItems, statements]
  | n :: rest, parentId, slot, s, last => by
    have later := stretch_walkItems (allocates_dot types resolve) rest parentId slot
      ((dot types resolve).walk (some parentId) slot n s)
    rw [callsItems_cons, statements_append later.paired, statements_walk n,
      statements_walkItems rest, nodes_walk, drawItems]

end

theorem statements_recorded (root : Node) :
    statements "black" ((dot types resolve).recorded .start root) = draw none "root" 0 root :=
  statements_walk types resolve root none "root" (Session.fresh, .start) "black"

end Walks

/-! ## What is drawn -/

/-- A node or list with its colour. -/
def Statement.painted? : Statement → Option (String × String)
  | .node id slot n => some (id, paint slot n)
  | .list id _ => some (id, "OrangeRed")
  | .edge .. => none

/-- The head of an edge with the colour of the edge. -/
def Statement.arrow? : Statement → Option (String × String)
  | .edge _ childId color => some (childId, color)
  | _ => none

/-- Statements that give `count` numbers in a row, from `next` on, to nodes and lists. Each is
followed by its one edge, which comes from a smaller number and has the colour of the node or that
of lists. -/
inductive Hung : (next count : Nat) → List Statement → Prop where
  | nil (next : Nat) : Hung next 0 []
  | node {next count parent : Nat} {rest : List Statement} (slot : String) (n : Node) :
      parent < next → Hung (next + 1) count rest →
      Hung next (count + 1) (.node (nodeName next) slot n ::
        .edge (nodeName parent) (nodeName next) (paint slot n) :: rest)
  | list {next count owner : Nat} {rest : List Statement} (slot : String) :
      owner < next → Hung (next + 1) count rest →
      Hung next (count + 1) (.list (nodeName next) slot ::
        .edge (nodeName owner) (nodeName next) "OrangeRed" :: rest)

theorem Hung.append {next count count' : Nat} {front back : List Statement}
    (first : Hung next count front) (second : Hung (next + count) count' back) :
    Hung next (count + count') (front ++ back) := by
  induction first with
  | nil next =>
    rw [Nat.zero_add]
    exact second
  | @node next count parent rest slot n up _ ih =>
    rw [Nat.add_right_comm]
    exact .node slot n up (ih (by rwa [Nat.add_assoc, Nat.add_comm 1]))
  | @list next count owner rest slot up _ ih =>
    rw [Nat.add_right_comm]
    exact .list slot up (ih (by rwa [Nat.add_assoc, Nat.add_comm 1]))

mutual

theorem hung_draw : (n : Node) → (slot : String) → (next parent : Nat) → parent < next →
    Hung next n.width (draw (some (nodeName parent)) slot next n)
  | .mk info singular lists, slot, next, parent, up => by
    rw [Node.width_mk, draw]
    have slots := hung_drawSingular singular (next + 1) next (Nat.lt_succ_self next)
    exact .node slot _ up (slots.append (hung_drawLists lists _ next (by omega)))

theorem hung_drawSingular : (singular : List (String × Option Node)) → (next owner : Nat) →
    owner < next →
    Hung next (Node.widths (singular.filterMap Prod.snd))
      (drawSingular (nodeName owner) next singular)
  | [], next, owner, up => by
    rw [drawSingular]
    exact .nil next
  | (_, none) :: rest, next, owner, up => by
    rw [drawSingular]
    exact hung_drawSingular rest next owner up
  | (slot, some n) :: rest, next, owner, up => by
    rw [drawSingular, List.filterMap_cons, Node.widths_cons]
    exact (hung_draw n slot next owner up).append (hung_drawSingular rest _ owner (by omega))

theorem hung_drawLists : (lists : List (String × List Node)) → (next owner : Nat) →
    owner < next →
    Hung next (Node.filled lists + Node.widths (lists.flatMap Prod.snd))
      (drawLists (nodeName owner) next lists)
  | [], next, owner, up => by
    rw [drawLists]
    exact .nil next
  | (slot, []) :: rest, next, owner, up => by
    rw [drawLists, List.flatMap_cons]
    exact hung_drawLists rest next owner up
  | (slot, n :: items) :: rest, next, owner, up => by
    have filled : ¬ (n :: items).isEmpty = true := Bool.false_ne_true
    have numbers : Node.filled ((slot, n :: items) :: rest) +
        Node.widths (((slot, n :: items) :: rest).flatMap Prod.snd) =
        Node.widths (n :: items) +
          (Node.filled rest + Node.widths (rest.flatMap Prod.snd)) + 1 := by
      have items : ((slot, n :: items) :: rest).flatMap Prod.snd =
          (n :: items) ++ rest.flatMap Prod.snd := rfl
      rw [Node.filled_cons, items, Node.widths_append]
      omega
    rw [drawLists, if_neg filled, numbers]
    exact .list slot up
      ((hung_drawItems (n :: items) (Text.singularize slot) (next + 1) next
        (Nat.lt_succ_self next)).append (hung_drawLists rest _ owner (by omega)))

theorem hung_drawItems : (items : List Node) → (slot : String) → (next list : Nat) →
    list < next → Hung next (Node.widths items) (drawItems (nodeName list) slot next items)
  | [], slot, next, list, up => by
    rw [drawItems]
    exact .nil next
  | n :: rest, slot, next, list, up => by
    rw [drawItems, Node.widths_cons]
    exact (hung_draw n slot next list up).append (hung_drawItems rest slot _ list (by omega))

end

/-- Below the top, which has the number zero, everything hangs. -/
theorem hung_below_top (root : Node) : ∃ rest,
    draw none "root" 0 root = .node (nodeName 0) "root" root :: rest ∧
      Hung 1 (root.width - 1) rest := by
  obtain ⟨info, singular, lists⟩ := root
  refine ⟨_, by rw [draw]; rfl, ?_⟩
  rw [Node.width_mk, Nat.add_sub_cancel]
  exact (hung_drawSingular singular 1 0 Nat.zero_lt_one).append
    (hung_drawLists lists _ 0 (by omega))

section Facts

variable {next count : Nat} {picture : List Statement}

theorem Hung.names (hung : Hung next count picture) :
    picture.filterMap Statement.name? = (List.range' next count).map nodeName := by
  induction hung with
  | nil next => rfl
  | node _ _ _ _ ih | list _ _ _ ih =>
    rw [List.range'_succ, List.map_cons, ← ih]
    rfl

theorem Hung.heads (hung : Hung next count picture) :
    (picture.filterMap Statement.edge?).map Prod.fst =
      (List.range' next count).map nodeName := by
  induction hung with
  | nil next => rfl
  | node _ _ _ _ ih | list _ _ _ ih =>
    rw [List.range'_succ, List.map_cons, ← ih]
    rfl

theorem Hung.colors (hung : Hung next count picture) :
    picture.filterMap Statement.arrow? = picture.filterMap Statement.painted? := by
  induction hung with
  | nil next => rfl
  | node _ _ _ _ ih | list _ _ _ ih => exact congrArg (List.cons _) ih

theorem Hung.lt_of_edge (hung : Hung next count picture) {parentId childId color : String}
    (drawn : .edge parentId childId color ∈ picture) :
    ∃ parent child, parent < child ∧ parentId = nodeName parent ∧ childId = nodeName child := by
  induction hung with
  | nil next => cases drawn
  | @node next count parent rest slot n up _ ih | @list next count parent rest slot up _ ih =>
    rcases List.mem_cons.mp drawn with other | drawn
    · cases other
    · rcases List.mem_cons.mp drawn with here | later
      · cases here
        exact ⟨parent, next, up, rfl, rfl⟩
      · exact ih later

end Facts

/-! ## Where nodes hang -/

/-- The identifiers of the nodes, in order. -/
def nodeIds (picture : List Statement) : List String :=
  (picture.filterMap Statement.node?).map Prod.fst

/-- The list of a statement, with its name. -/
def Statement.ellipse? : Statement → Option (String × String)
  | .list id slot => some (id, slot)
  | _ => none

/-- The parent's identifier is the owner's or, for an item of a list, that of the list, which bears
the name of the slot and hangs from the owner. -/
def HangsFrom (picture : List Statement) (holder : Node.Holder) (parentId : String) : Prop :=
  ∃ ownerId, (nodeIds picture)[holder.owner]? = some ownerId ∧
    match holder.list with
    | none => parentId = ownerId
    | some (k, slot) =>
        (picture.filterMap Statement.ellipse?)[k]? = some (parentId, slot) ∧
          .edge ownerId parentId "OrangeRed" ∈ picture

theorem edge_mem_statements (last : String) {calls : List Call} {parentId slot : String}
    {length : Nat} {session : Session} {given : Option String}
    (entered : .enterList parentId slot length session given ∈ calls) :
    .edge parentId session.nextNode.1 "OrangeRed" ∈ statements last calls := by
  induction calls generalizing last with
  | nil => cases entered
  | cons call rest ih =>
    rcases List.mem_cons.mp entered with rfl | later
    · exact List.mem_cons_of_mem _ (List.mem_cons_self ..)
    · cases call with
      | node | edge => exact List.mem_cons_of_mem _ (ih _ later)
      | enterList => exact List.mem_cons_of_mem _ (List.mem_cons_of_mem _ (ih _ later))
      | leaveList | leaveNode => exact ih _ later

section Holders

variable {last : String} {calls : List Call} (named : ∀ call ∈ calls, Named call)

include named

theorem nodeIds_statements :
    nodeIds (statements last calls) = calls.filterMap Call.nodeId? := by
  have drawn := congrArg Graph.ids (graph_statements last named)
  rw [ids_graph] at drawn
  exact drawn

theorem exists_edge_of_call {edgeId parentId childId : String}
    (present : .edge edgeId parentId childId ∈ calls) :
    ∃ color, .edge parentId childId color ∈ statements last calls := by
  have link : (childId, parentId) ∈ (Call.graph calls).edges :=
    List.mem_filterMap.mpr ⟨_, present, rfl⟩
  rw [← graph_statements last named] at link
  obtain ⟨statement, drawn, isEdge⟩ := List.mem_filterMap.mp link
  cases statement with
  | edge parentId' childId' color =>
    cases isEdge
    exact ⟨color, drawn⟩
  | node | list => cases isEdge

theorem ellipses_statements :
    (statements last calls).filterMap Statement.ellipse? =
      (calls.filterMap Call.list?).map fun list => (list.2.2.getD list.1, list.2.1) := by
  rw [List.map_filterMap]
  exact filterMap_statements (fun _ _ _ => rfl) (fun _ _ _ _ => rfl) (fun _ _ _ _ => rfl)
    (fun _ => rfl) (fun _ _ _ => rfl) last named

theorem hangsFrom_of_resolves {holder : Node.Holder} {parentId : String}
    (resolves : holder.Resolves (fun k => (calls.filterMap Call.nodeId?)[k]?)
      (fun k => (calls.filterMap Call.list?)[k]?) parentId) :
    HangsFrom (statements last calls) holder parentId := by
  obtain ⟨ownerId, known, leads⟩ := resolves
  refine ⟨ownerId, by rw [nodeIds_statements named]; exact known, ?_⟩
  obtain ⟨owner, _ | ⟨k, slot⟩⟩ := holder
  · exact leads
  · obtain ⟨given, entered, rfl⟩ := leads
    refine ⟨?_, ?_⟩
    · have entered : (calls.filterMap Call.list?)[k]? = some (ownerId, slot, given) := entered
      rw [ellipses_statements named, List.getElem?_map, entered]
      rfl
    · obtain ⟨call, present, isCall⟩ := List.mem_filterMap.mp (List.mem_of_getElem? entered)
      cases call with
      | enterList parentId slot length session given =>
        cases isCall
        obtain rfl := named _ present
        exact edge_mem_statements last present
      | edge | node | leaveList | leaveNode => cases isCall

end Holders

/-- Every node below the top has an edge from where it hangs in the tree. -/
theorem hangsFrom_draw (root : Node) {k : Nat} {holder : Node.Holder} {childId : String}
    (held : (root.holders 0 0)[k]? = some holder)
    (child : (nodeIds (draw none "root" 0 root))[k + 1]? = some childId) :
    ∃ parentId color, .edge parentId childId color ∈ draw none "root" 0 root ∧
      HangsFrom (draw none "root" 0 root) holder parentId := by
  have named := named_recorded_dot false (fun _ => none) root
  have visits := visits_calls (allocates_dot false fun _ => none) none "root" root
    (Session.fresh, .start)
  rw [← statements_recorded false fun _ => none] at child ⊢
  rw [nodeIds_statements named, Nat.add_comm, ← List.getElem?_drop] at child
  obtain ⟨below, parents, resolved⟩ := visits.parents
  obtain ⟨sameLength, each⟩ := List.forall₂_iff_get.mp resolved
  obtain ⟨inside, rfl⟩ := List.getElem?_eq_some_iff.mp held
  have inside' : k < below.length := sameLength ▸ inside
  have edge : (((dot false fun _ => none).recorded .start root).filterMap Call.edge?)[k]? =
      some (childId, below[k]) := by
    have split := List.zip_of_prod ((map_fst_edges _).trans visits.children)
      ((map_snd_edges _).trans parents)
    rw [recorded, split, List.getElem?_zip_eq_some]
    exact ⟨child, List.getElem?_eq_getElem inside'⟩
  obtain ⟨call, present, isEdge⟩ := List.mem_filterMap.mp (List.mem_of_getElem? edge)
  cases call with
  | edge edgeId parentId childId =>
    cases isEdge
    obtain ⟨color, drawn⟩ := exists_edge_of_call named present
    exact ⟨_, color, drawn, hangsFrom_of_resolves named (each k inside inside')⟩
  | node | enterList | leaveList | leaveNode => cases isEdge

/-! ## Lines with types -/

theorem typeLine_ne_empty (type : String) : typeLine type ≠ "" := by
  intro empty
  unfold typeLine at empty
  rw [String.append_assoc, String.append_eq_empty_iff] at empty
  exact absurd empty.1 (by decide)

theorem typeLine_ne_empty_iff (resolve : Node → Option String) (s : Statement) :
    s.typeLine resolve ≠ "" ↔
      ∃ id slot n type, s = .node id slot n ∧ n.info.isExpression = true ∧
        resolve n = some type := by
  constructor
  · intro shown
    cases s with
    | node id slot n =>
      rw [Statement.typeLine] at shown
      split at shown
      · next expression =>
        cases found : resolve n with
        | none =>
          rw [found] at shown
          exact absurd rfl shown
        | some type => exact ⟨id, slot, n, type, rfl, expression, found⟩
      · exact absurd rfl shown
    | list | edge => exact absurd rfl shown
  · rintro ⟨id, slot, n, type, rfl, expression, found⟩
    rw [Statement.typeLine, if_pos expression, found]
    exact typeLine_ne_empty type

/-! ## Whole documents -/

theorem nodes_draw (root : Node) :
    ((draw none "root" 0 root).filterMap Statement.node?).map Prod.snd = root.preorder := by
  rw [← statements_recorded false fun _ => none]
  exact (picture_recorded false (fun _ => none) root).2.1

/-- The document of a tree is its drawing, whatever way there is to find types. Nodes and lists are
numbered in a row. All but the first have one edge, which comes from a smaller number, has their
colour, and leads from the parent in the tree, for an item from the list that bears the name of its
slot, and for a list from its owner. The line with the type is all that depends on how types are
found, and it is there for the expressions with a known type. -/
theorem drawing_complete (types : Bool) (root : Node) :
    let picture := draw none "root" 0 root
    (∀ resolve, (dot types resolve).run .start root =
        "digraph \x7b" ++ String.join (picture.map fun statement =>
          statement.beforeType types ++ statement.typeLine resolve ++ statement.afterType) ++
          "\n\x7d") ∧
      (picture.filterMap Statement.node?).map Prod.snd = root.preorder ∧
      picture.filterMap Statement.name? =
        (List.range (root.count + root.listCount)).map nodeName ∧
      (picture.filterMap Statement.edge?).map Prod.fst =
        (List.range' 1 (root.count + root.listCount - 1)).map nodeName ∧
      (∀ parentId childId color, .edge parentId childId color ∈ picture →
        ∃ parent child, parent < child ∧ parentId = nodeName parent ∧
          childId = nodeName child) ∧
      picture.filterMap Statement.arrow? = (picture.filterMap Statement.painted?).tail ∧
      (∀ k holder childId, (root.holders 0 0)[k]? = some holder →
        (nodeIds picture)[k + 1]? = some childId →
          ∃ parentId color, .edge parentId childId color ∈ picture ∧
            HangsFrom picture holder parentId) ∧
      ∀ resolve (statement : Statement), statement.typeLine resolve ≠ "" ↔
        ∃ id slot n type, statement = .node id slot n ∧ n.info.isExpression = true ∧
          resolve n = some type := by
  intro picture
  obtain ⟨rest, top, hung⟩ := hung_below_top root
  have picture_eq : picture = .node (nodeName 0) "root" root :: rest := top
  have positive : root.count + root.listCount = root.width - 1 + 1 := by
    have := root.count_pos
    rw [Node.width]
    omega
  refine ⟨?_, nodes_draw root, ?_, ?_, ?_, ?_, fun _ _ _ => hangsFrom_draw root,
    typeLine_ne_empty_iff⟩
  · intro resolve
    rw [run_eq_text, statements_recorded]
    rfl
  · rw [positive, List.range_eq_range', List.range'_succ, List.map_cons, ← hung.names, picture_eq]
    rfl
  · rw [positive, Nat.add_sub_cancel, ← hung.heads, picture_eq]
    rfl
  · intro parentId childId color drawn
    rw [picture_eq] at drawn
    rcases List.mem_cons.mp drawn with other | below
    · cases other
    · exact hung.lt_of_edge below
  · rw [picture_eq]
    exact hung.colors

end Encoder.Dot

end SyntaxExport
