import Mathlib.Data.List.Forall2
import Mathlib.Data.List.Nodup
import SyntaxExport.Encoder.Trace
import SyntaxExport.Proofs.Decimal
import SyntaxExport.Proofs.Preorder
import SyntaxExport.Proofs.Recording

/-!
# Identifiers of a walk

A walk numbers nodes in the order it reaches them. An encoder may take a number for each list that
is not empty, and then the numbers of lists stand between those of nodes. What a part of a walk does
is a `Stretch` of calls: stretches in a row make a stretch, so each step of the walk is looked at
once.

Results:
1. `stretch_descend`: the calls below a node are a stretch.
2. `linked_descend`: each edge below a node leads to the node's parent in the tree or to what was
   given back for the list between them.
3. `walk_visits`: both for whole walks, with or without a parent.
-/

namespace SyntaxExport

/-! ## Names -/

namespace Session

/-- The identifier of the node with that number. -/
def nodeName (k : Nat) : String :=
  "n" ++ toString k

/-- The identifier of the edge with that number. -/
def edgeName (k : Nat) : String :=
  "e" ++ toString k

theorem nodeName_injective : Function.Injective nodeName := by
  intro k k' same
  unfold nodeName at same
  rw [String.append_right_inj] at same
  exact Decimal.toString_injective same

theorem nodup_map_nodeName (start count : Nat) :
    ((List.range' start count).map nodeName).Nodup :=
  (List.nodup_range' 1).map nodeName_injective

end Session

open Session

/-! ## Lists that are not empty -/

namespace Node

/-- How many of the lists are not empty. -/
def filled (lists : List (String × List Node)) : Nat :=
  lists.countP fun list => !list.2.isEmpty

/-- How many lists of these nodes are not empty. -/
def filledIn : List Node → Nat
  | [] => 0
  | n :: rest => filled n.lists + filledIn rest

/-- How many lists in the tree are not empty. -/
def listCount (n : Node) : Nat :=
  filledIn n.preorder

theorem filled_cons (slot : String) (n : Node) (items : List Node)
    (rest : List (String × List Node)) :
    filled ((slot, n :: items) :: rest) = filled rest + 1 := by
  simp [filled]

@[simp] theorem filledIn_nil : filledIn [] = 0 := rfl

@[simp] theorem filledIn_cons (n : Node) (rest : List Node) :
    filledIn (n :: rest) = filled n.lists + filledIn rest := rfl

@[simp] theorem filledIn_append (front back : List Node) :
    filledIn (front ++ back) = filledIn front + filledIn back := by
  induction front with
  | nil => rw [List.nil_append, filledIn_nil, Nat.zero_add]
  | cons n rest ih => rw [List.cons_append, filledIn_cons, filledIn_cons, ih, Nat.add_assoc]

/-! ## Holders -/

/-- Where a node hangs: the rank of its parent and, for an item of a list, the list's name and its
number among all lists of the tree that are not empty. -/
structure Holder where
  owner : Nat
  list : Option (Nat × String)
  deriving DecidableEq, Repr

mutual

/-- The holders of all nodes below a node, in pre-order. The node has rank `rank`, and the lists
below it are numbered from `list` on. -/
def holders (rank list : Nat) : Node → List Holder
  | mk _ singular lists =>
      holdersSingular rank (rank + 1) list singular ++
        holdersLists rank (rank + 1 + total (singular.filterMap Prod.snd))
          (list + filledIn ((singular.filterMap Prod.snd).flatMap preorder)) lists

/-- The holders of the nodes below single slots, the first of which has rank `next`. -/
def holdersSingular (owner next list : Nat) : List (String × Option Node) → List Holder
  | [] => []
  | (_, none) :: rest => holdersSingular owner next list rest
  | (_, some n) :: rest =>
      ⟨owner, none⟩ :: (holders next list n ++
        holdersSingular owner (next + n.count) (list + n.listCount) rest)

/-- The holders of the nodes below lists. -/
def holdersLists (owner next list : Nat) : List (String × List Node) → List Holder
  | [] => []
  | (slot, items) :: rest =>
      if items.isEmpty then holdersLists owner next list rest
      else
        holdersItems ⟨owner, some (list, slot)⟩ next (list + 1) items ++
          holdersLists owner (next + total items)
            (list + 1 + filledIn (items.flatMap preorder)) rest

/-- The holders of the nodes below the items of a list. -/
def holdersItems (holder : Holder) (next list : Nat) : List Node → List Holder
  | [] => []
  | n :: rest =>
      holder :: (holders next list n ++
        holdersItems holder (next + n.count) (list + n.listCount) rest)

end

/-- The parent's identifier is the owner's or, for an item of a list, what was given back for that
list of the owner, if anything. -/
def Holder.Resolves (ids : Nat → Option String)
    (lists : Nat → Option (String × String × Option String)) (holder : Holder)
    (parentId : String) : Prop :=
  ∃ ownerId, ids holder.owner = some ownerId ∧
    match holder.list with
    | none => parentId = ownerId
    | some (k, slot) =>
        ∃ given, lists k = some (ownerId, slot, given) ∧ parentId = given.getD ownerId

end Node

/-! ## What the calls say -/

namespace Encoder

namespace Call

/-- The node of a node call. -/
def node? : Call → Option Node
  | .node _ _ n => some n
  | _ => none

/-- The identifier of a node call. -/
def nodeId? : Call → Option String
  | .node id _ _ => some id
  | _ => none

/-- The list of a list call: the owner's identifier, the name of the slot and what was given
back. -/
def list? : Call → Option (String × String × Option String)
  | .enterList parentId slot _ _ given => some (parentId, slot, given)
  | _ => none

/-- The node identifier that a call took, if lists take one as `ownLists` says. -/
def taken? (ownLists : Bool) : Call → Option String
  | .node id _ _ => some id
  | .enterList _ _ _ _ given => if ownLists then given else none
  | _ => none

/-- The identifier of an edge. -/
def edgeId? : Call → Option String
  | .edge edgeId _ _ => some edgeId
  | _ => none

/-- The parent of an edge. -/
def parentId? : Call → Option String
  | .edge _ parentId _ => some parentId
  | _ => none

/-- The child of an edge. -/
def childId? : Call → Option String
  | .edge _ _ childId => some childId
  | _ => none

end Call

/-- Each node is followed at once by its edge, and there are no other edges. -/
inductive Paired : List Call → Prop where
  | nil : Paired []
  | node {id slot : String} {n : Node} {edgeId parentId : String} {rest : List Call} :
      Paired rest → Paired (.node id slot n :: .edge edgeId parentId id :: rest)
  | enterList {parentId slot : String} {length : Nat} {session : Session}
      {given : Option String} {rest : List Call} :
      Paired rest → Paired (.enterList parentId slot length session given :: rest)
  | leaveList {slot : String} {rest : List Call} : Paired rest → Paired (.leaveList slot :: rest)
  | leaveNode {id slot : String} {n : Node} {rest : List Call} :
      Paired rest → Paired (.leaveNode id slot n :: rest)

theorem Paired.append {front back : List Call} (first : Paired front) (second : Paired back) :
    Paired (front ++ back) := by
  induction first with
  | nil => exact second
  | node _ ih => exact .node ih
  | enterList _ ih => exact .enterList ih
  | leaveList _ ih => exact .leaveList ih
  | leaveNode _ ih => exact .leaveNode ih

theorem Paired.children {calls : List Call} (paired : Paired calls) :
    calls.filterMap Call.childId? = calls.filterMap Call.nodeId? := by
  induction paired with
  | nil => rfl
  | node _ ih => exact congrArg (List.cons _) ih
  | enterList _ ih | leaveList _ ih | leaveNode _ ih => exact ih

/-- An encoder that takes a node identifier for every list and gives it back, if `ownLists`, and
otherwise takes none. -/
def Allocates {σ : Type} (e : Encoder σ) (ownLists : Bool) : Prop :=
  ∀ parentId slot length session state,
    if ownLists then
      (e.enterList parentId slot length session state).1 = some session.nextNode.1 ∧
        (e.enterList parentId slot length session state).2.1 = session.nextNode.2
    else (e.enterList parentId slot length session state).2.1 = session

/-! ## Stretches of calls -/

/-- Calls that visit these nodes, all of them with a parent, and that many lists. -/
structure Stretch (ownLists : Bool) (before after : Session) (nodes : List Node) (lists : Nat)
    (calls : List Call) : Prop where
  visited : calls.filterMap Call.node? = nodes
  entered : (calls.filterMap Call.list?).length = lists
  taken : calls.filterMap (Call.taken? ownLists) =
    (List.range' before.nodes (nodes.length + if ownLists then lists else 0)).map nodeName
  edges : calls.filterMap Call.edgeId? =
    (List.range' before.edges nodes.length).map edgeName
  paired : Paired calls
  after_eq : after = ⟨before.nodes + (nodes.length + if ownLists then lists else 0),
    before.edges + nodes.length⟩

namespace Stretch

variable {ownLists : Bool} {s s' s'' : Session} {nodes nodes' : List Node} {lists lists' : Nat}
  {calls calls' : List Call}

theorem append (first : Stretch ownLists s s' nodes lists calls)
    (second : Stretch ownLists s' s'' nodes' lists' calls') :
    Stretch ownLists s s'' (nodes ++ nodes') (lists + lists') (calls ++ calls') := by
  obtain rfl := first.after_eq
  have numbers : nodes.length + nodes'.length + (if ownLists then lists + lists' else 0) =
      (nodes.length + if ownLists then lists else 0) +
        (nodes'.length + if ownLists then lists' else 0) := by
    split <;> omega
  constructor
  · rw [List.filterMap_append, first.visited, second.visited]
  · rw [List.filterMap_append, List.length_append, first.entered, second.entered]
  · rw [List.filterMap_append, first.taken, second.taken, List.length_append, numbers,
      ← List.map_append, List.range'_append_1]
  · rw [List.filterMap_append, first.edges, second.edges, List.length_append,
      ← List.map_append, List.range'_append_1]
  · exact first.paired.append second.paired
  · rw [second.after_eq, List.length_append, numbers]
    simp only [Nat.add_assoc]

theorem nil (s : Session) : Stretch ownLists s s [] 0 [] := by
  cases ownLists <;> exact ⟨rfl, rfl, rfl, rfl, .nil, rfl⟩

theorem leaveList (s : Session) (slot : String) :
    Stretch ownLists s s [] 0 [.leaveList slot] := by
  cases ownLists <;> exact ⟨rfl, rfl, rfl, rfl, .leaveList .nil, rfl⟩

theorem leaveNode (s : Session) (id slot : String) (n : Node) :
    Stretch ownLists s s [] 0 [.leaveNode id slot n] := by
  cases ownLists <;> exact ⟨rfl, rfl, rfl, rfl, .leaveNode .nil, rfl⟩

theorem arrive (s : Session) (parentId slot : String) (n : Node) :
    Stretch ownLists s ⟨s.nodes + 1, s.edges + 1⟩ [n] 0
      (callsArrive (some parentId) slot n s) := by
  cases ownLists <;> exact ⟨rfl, rfl, rfl, rfl, .node .nil, rfl⟩

theorem enterList {σ : Type} {e : Encoder σ} (allocates : e.Allocates ownLists)
    (parentId slot : String) (length : Nat) (s : Session × σ) :
    Stretch ownLists s.1 (e.enterList parentId slot length s.1 s.2).2.1 [] 1
      [.enterList parentId slot length s.1 (e.enterList parentId slot length s.1 s.2).1] := by
  have answer := allocates parentId slot length s.1 s.2
  cases ownLists with
  | false => exact ⟨rfl, rfl, rfl, rfl, .enterList .nil, answer⟩
  | true =>
    obtain ⟨given, session⟩ := answer
    rw [given, session]
    exact ⟨rfl, rfl, rfl, rfl, .enterList .nil, rfl⟩

/-- The children of a node and all below them, from those in single slots and those in lists. -/
theorem descend {σ : Type} {e : Encoder σ} (id slot : String) (n : Node) (s : Session × σ)
    (single : Stretch ownLists s.1 (e.walkSingular id n.singular s).1
      ((n.singular.filterMap Prod.snd).flatMap Node.preorder)
      (Node.filledIn ((n.singular.filterMap Prod.snd).flatMap Node.preorder))
      (e.callsSingular id n.singular s))
    (listed : Stretch ownLists (e.walkSingular id n.singular s).1
      (e.walkLists id n.lists (e.walkSingular id n.singular s)).1
      ((n.lists.flatMap Prod.snd).flatMap Node.preorder)
      (Node.filled n.lists + Node.filledIn ((n.lists.flatMap Prod.snd).flatMap Node.preorder))
      (e.callsLists id n.lists (e.walkSingular id n.singular s))) :
    Stretch ownLists s.1 (e.descend id slot n s).1 (n.children.flatMap Node.preorder)
      (Node.filled n.lists + Node.filledIn (n.children.flatMap Node.preorder))
      (e.callsDescend id slot n s) := by
  have all := (single.append listed).append (leaveNode _ id slot n)
  rw [List.append_nil, Nat.add_zero, ← List.flatMap_append, Nat.add_left_comm,
    ← Node.filledIn_append, ← List.flatMap_append] at all
  exact all

end Stretch

section Walks

variable {σ : Type} {e : Encoder σ} {ownLists : Bool}

mutual

theorem stretch_walk (allocates : e.Allocates ownLists) : (n : Node) → (parentId slot : String) →
    (s : Session × σ) →
    Stretch ownLists s.1 (e.walk (some parentId) slot n s).1 n.preorder n.listCount
      (e.calls (some parentId) slot n s)
  | .mk info singular lists, parentId, slot, s => by
    have below := Stretch.descend s.1.nextNode.1 slot (.mk info singular lists)
      (e.arrive (some parentId) slot (.mk info singular lists) s)
      (stretch_walkSingular allocates singular _ _) (stretch_walkLists allocates lists _ _)
    have all := (Stretch.arrive s.1 parentId slot (.mk info singular lists)).append below
    rw [Nat.zero_add] at all
    rw [walk_eq_descend, calls_eq, Node.listCount, Node.preorder_eq, Node.filledIn_cons]
    exact all

theorem stretch_walkSingular (allocates : e.Allocates ownLists) :
    (singular : List (String × Option Node)) → (id : String) → (s : Session × σ) →
    Stretch ownLists s.1 (e.walkSingular id singular s).1
      ((singular.filterMap Prod.snd).flatMap Node.preorder)
      (Node.filledIn ((singular.filterMap Prod.snd).flatMap Node.preorder))
      (e.callsSingular id singular s)
  | [], id, s => by
    rw [callsSingular, walkSingular, walkSingular]
    exact .nil s.1
  | (_, none) :: rest, id, s => by
    rw [callsSingular, walkSingular, walkSingular]
    exact stretch_walkSingular allocates rest id s
  | (slot, some n) :: rest, id, s => by
    rw [callsSingular_some, walkSingular, List.filterMap_cons, List.flatMap_cons,
      Node.filledIn_append]
    exact (stretch_walk allocates n id slot s).append
      (stretch_walkSingular allocates rest id (e.walk (some id) slot n s))

theorem stretch_walkLists (allocates : e.Allocates ownLists) :
    (lists : List (String × List Node)) → (id : String) → (s : Session × σ) →
    Stretch ownLists s.1 (e.walkLists id lists s).1
      ((lists.flatMap Prod.snd).flatMap Node.preorder)
      (Node.filled lists + Node.filledIn ((lists.flatMap Prod.snd).flatMap Node.preorder))
      (e.callsLists id lists s)
  | [], id, s => by
    rw [callsLists, walkLists, walkLists]
    exact .nil s.1
  | (slot, items) :: rest, id, s => by
    cases items with
    | nil =>
      rw [callsLists, walkLists_cons, walkLists_cons]
      exact stretch_walkLists allocates rest id s
    | cons n items =>
      have all := (((Stretch.enterList allocates id slot (n :: items).length s).append
        (stretch_walkItems allocates (n :: items) _ (Text.singularize slot) _)).append
        (Stretch.leaveList _ slot)).append
        (stretch_walkLists allocates rest id (e.visitList id slot (n :: items) s))
      rw [callsLists_cons e id slot rfl, walkLists_cons]
      rw [List.nil_append, List.append_nil, ← List.flatMap_append, List.append_assoc] at all
      have numbers : Node.filled ((slot, n :: items) :: rest) +
          Node.filledIn ((((slot, n :: items) :: rest).flatMap Prod.snd).flatMap Node.preorder) =
          1 + Node.filledIn ((n :: items).flatMap Node.preorder) + 0 + (Node.filled rest +
            Node.filledIn ((rest.flatMap Prod.snd).flatMap Node.preorder)) := by
        simp only [Node.filled_cons, List.flatMap_cons, List.flatMap_append, Node.filledIn_append]
        omega
      rw [numbers]
      exact all

theorem stretch_walkItems (allocates : e.Allocates ownLists) :
    (items : List Node) → (parentId slot : String) → (s : Session × σ) →
    Stretch ownLists s.1 (e.walkItems parentId slot items s).1 (items.flatMap Node.preorder)
      (Node.filledIn (items.flatMap Node.preorder)) (e.callsItems parentId slot items s)
  | [], parentId, slot, s => by
    rw [callsItems, walkItems, walkItems]
    exact .nil s.1
  | n :: rest, parentId, slot, s => by
    rw [callsItems_cons, walkItems, List.flatMap_cons, Node.filledIn_append]
    exact (stretch_walk allocates n parentId slot s).append
      (stretch_walkItems allocates rest parentId slot (e.walk (some parentId) slot n s))

end

/-! ## Parents -/

/-- The table holds the list from that place on. -/
def Tabulates {α : Type} (table : Nat → Option α) : Nat → List α → Prop
  | _, [] => True
  | k, x :: xs => table k = some x ∧ Tabulates table (k + 1) xs

theorem tabulates_append {α : Type} {table : Nat → Option α} {k : Nat} {front back : List α} :
    Tabulates table k (front ++ back) ↔
      Tabulates table k front ∧ Tabulates table (k + front.length) back := by
  induction front generalizing k with
  | nil => simp [Tabulates]
  | cons x rest ih =>
    rw [List.cons_append, Tabulates, Tabulates, ih, and_assoc, List.length_cons, Nat.add_assoc,
      Nat.add_comm 1]

theorem tabulates_getElem? {α : Type} (front back : List α) :
    Tabulates (fun k => (front ++ back)[k]?) front.length back := by
  induction back generalizing front with
  | nil => trivial
  | cons x rest ih =>
    have next := ih (front ++ [x])
    rw [List.length_append, List.append_assoc] at next
    exact ⟨by simp, next⟩

/-- The edges of the calls lead to the parents that the holders name, in whatever tables the nodes
are put from `next` on and the lists from `list` on. -/
def Linked (ids : Nat → Option String) (lists : Nat → Option (String × String × Option String))
    (next list : Nat) (holders : List Node.Holder) (calls : List Call) : Prop :=
  Tabulates ids next (calls.filterMap Call.nodeId?) →
    Tabulates lists list (calls.filterMap Call.list?) →
    List.Forall₂ (Node.Holder.Resolves ids lists) holders (calls.filterMap Call.parentId?)

theorem length_filterMap_nodeId? (calls : List Call) :
    (calls.filterMap Call.nodeId?).length = (calls.filterMap Call.node?).length := by
  induction calls with
  | nil => rfl
  | cons call rest ih =>
    cases call with
    | node => exact congrArg (· + 1) ih
    | edge | enterList | leaveList | leaveNode => exact ih

section Links

variable {ids : Nat → Option String} {lists : Nat → Option (String × String × Option String)}

theorem Linked.append {s s' : Session} {nodes : List Node} {entered next list : Nat}
    {front back : List Call} {holders holders' : List Node.Holder}
    (stretch : Stretch ownLists s s' nodes entered front)
    (first : Linked ids lists next list holders front)
    (second : Linked ids lists (next + nodes.length) (list + entered) holders' back) :
    Linked ids lists next list (holders ++ holders') (front ++ back) := by
  intro idTable listTable
  -- the second part starts in the tables where the stretch says that the first one ends
  rw [List.filterMap_append, tabulates_append] at idTable listTable
  rw [length_filterMap_nodeId?, stretch.visited] at idTable
  rw [stretch.entered] at listTable
  rw [List.filterMap_append]
  exact List.rel_append (first idTable.1 listTable.1) (second idTable.2 listTable.2)

theorem Linked.leave {next list : Nat} {holders : List Node.Holder} {calls : List Call}
    (linked : Linked ids lists next list holders calls) (id slot : String) (n : Node) :
    Linked ids lists next list holders (calls ++ [.leaveNode id slot n]) := by
  have nothing {α : Type} (f : Call → Option α) (skips : f (.leaveNode id slot n) = none) :
      (calls ++ [Call.leaveNode id slot n]).filterMap f = calls.filterMap f := by
    rw [List.filterMap_append, List.filterMap_cons_none skips, List.filterMap_nil,
      List.append_nil]
  unfold Linked
  rw [nothing _ rfl, nothing _ rfl, nothing _ rfl]
  exact linked

theorem Linked.walk (next list : Nat) (holder : Node.Holder) {parentId : String}
    (up : holder.Resolves ids lists parentId) (slot : String) (n : Node) (s : Session × σ)
    (below : ids next = some s.1.nextNode.1 →
      Linked ids lists (next + 1) list (n.holders next list)
        (e.callsDescend s.1.nextNode.1 slot n (e.arrive (some parentId) slot n s))) :
    Linked ids lists next list (holder :: n.holders next list)
      (e.calls (some parentId) slot n s) := by
  rw [calls_eq]
  intro idTable listTable
  obtain ⟨first, rest⟩ := idTable
  exact .cons up (below first rest listTable)

mutual

theorem linked_descend (allocates : e.Allocates ownLists) : (n : Node) → (id slot : String) →
    (s : Session × σ) → (rank list : Nat) → ids rank = some id →
    Linked ids lists (rank + 1) list (n.holders rank list) (e.callsDescend id slot n s)
  | .mk info singular lists', id, slot, s, rank, list, known => by
    have single := linked_walkSingular allocates singular id s rank (rank + 1) list known
    have listed := linked_walkLists allocates lists' id (e.walkSingular id singular s) rank
      (rank + 1 + Node.total (singular.filterMap Prod.snd))
      (list + Node.filledIn ((singular.filterMap Prod.snd).flatMap Node.preorder)) known
    rw [← Node.length_flatMap_preorder] at listed
    rw [Node.holders, ← Node.length_flatMap_preorder]
    exact (single.append (stretch_walkSingular allocates singular id s) listed).leave id slot _

theorem linked_walkSingular (allocates : e.Allocates ownLists) :
    (singular : List (String × Option Node)) → (id : String) → (s : Session × σ) →
    (owner next list : Nat) → ids owner = some id →
    Linked ids lists next list (Node.holdersSingular owner next list singular)
      (e.callsSingular id singular s)
  | [], id, s, owner, next, list, known => by
    rw [callsSingular, walkSingular, Node.holdersSingular]
    exact fun _ _ => .nil
  | (_, none) :: rest, id, s, owner, next, list, known => by
    rw [callsSingular, walkSingular, Node.holdersSingular]
    exact linked_walkSingular allocates rest id s owner next list known
  | (slot, some n) :: rest, id, s, owner, next, list, known => by
    have first := Linked.walk next list ⟨owner, none⟩ ⟨id, known, rfl⟩ slot n s
      (linked_descend allocates n s.1.nextNode.1 slot _ next list)
    have second := linked_walkSingular allocates rest id (e.walk (some id) slot n s) owner
      (next + n.count) (list + n.listCount) known
    rw [← Node.length_preorder] at second
    rw [callsSingular_some, Node.holdersSingular, ← List.cons_append, ← Node.length_preorder]
    exact first.append (stretch_walk allocates n id slot s) second

theorem linked_walkLists (allocates : e.Allocates ownLists) :
    (lists' : List (String × List Node)) → (id : String) → (s : Session × σ) →
    (owner next list : Nat) → ids owner = some id →
    Linked ids lists next list (Node.holdersLists owner next list lists')
      (e.callsLists id lists' s)
  | [], id, s, owner, next, list, known => by
    rw [callsLists, walkLists, Node.holdersLists]
    exact fun _ _ => .nil
  | (slot, []) :: rest, id, s, owner, next, list, known => by
    rw [callsLists, walkLists_cons, Node.holdersLists]
    exact linked_walkLists allocates rest id s owner next list known
  | (slot, n :: items) :: rest, id, s, owner, next, list, known => by
    have first : Linked ids lists next list
        (Node.holdersItems ⟨owner, some (list, slot)⟩ next (list + 1) (n :: items))
        (.enterList id slot (n :: items).length s.1
            (e.enterList id slot (n :: items).length s.1 s.2).1 ::
          e.callsItems ((e.enterList id slot (n :: items).length s.1 s.2).1.getD id)
            (Text.singularize slot) (n :: items)
            (e.enterList id slot (n :: items).length s.1 s.2).2) := by
      intro idTable listTable
      obtain ⟨entry, listTable⟩ := listTable
      exact linked_walkItems allocates (n :: items) _ (Text.singularize slot) _
        ⟨owner, some (list, slot)⟩ next (list + 1) ⟨id, known, _, entry, rfl⟩ idTable listTable
    have stretch := (Stretch.enterList allocates id slot (n :: items).length s).append
      (stretch_walkItems allocates (n :: items)
        ((e.enterList id slot (n :: items).length s.1 s.2).1.getD id) (Text.singularize slot) _)
    have second := linked_walkLists allocates rest id (e.visitList id slot (n :: items) s) owner
      (next + Node.total (n :: items))
      (list + 1 + Node.filledIn ((n :: items).flatMap Node.preorder)) known
    rw [← Node.length_flatMap_preorder, Nat.add_assoc list] at second
    rw [callsLists_cons e id slot rfl, Node.holdersLists, ← Node.length_flatMap_preorder,
      Nat.add_assoc list 1 (Node.filledIn _)]
    exact first.append stretch second

theorem linked_walkItems (allocates : e.Allocates ownLists) :
    (items : List Node) → (parentId slot : String) → (s : Session × σ) →
    (holder : Node.Holder) → (next list : Nat) → holder.Resolves ids lists parentId →
    Linked ids lists next list (Node.holdersItems holder next list items)
      (e.callsItems parentId slot items s)
  | [], parentId, slot, s, holder, next, list, up => by
    rw [callsItems, walkItems, Node.holdersItems]
    exact fun _ _ => .nil
  | n :: rest, parentId, slot, s, holder, next, list, up => by
    have first := Linked.walk next list holder up slot n s
      (linked_descend allocates n s.1.nextNode.1 slot _ next list)
    have second := linked_walkItems allocates rest parentId slot (e.walk (some parentId) slot n s)
      holder (next + n.count) (list + n.listCount) up
    rw [← Node.length_preorder] at second
    rw [callsItems_cons, Node.holdersItems, ← List.cons_append, ← Node.length_preorder]
    exact first.append (stretch_walk allocates n parentId slot s) second

end

end Links

/-! ## Whole walks -/

/-- The calls of a walk over a tree under `parent`, from one session to another.

* `visited`, `count`: every node is visited once, in pre-order.
* `taken`, `distinct`, `entered`: node identifiers are taken in a row, for nodes and, with
  `ownLists`, for lists that are not empty.
* `paired`, `edges`, `children`: every node is followed at once by its edge, a top without parent
  excepted, and edge identifiers are taken in a row.
* `parents`: every edge below the top leads to where the node hangs in the tree.
* `after_eq`: the session has moved on by what was taken. -/
structure Visits (ownLists : Bool) (parent : Option String) (slot : String) (n : Node)
    (before after : Session) (calls : List Call) : Prop where
  visited : calls.filterMap Call.node? = n.preorder
  count : (calls.filterMap Call.node?).length = n.count
  taken : calls.filterMap (Call.taken? ownLists) =
    (List.range' before.nodes (n.count + if ownLists then n.listCount else 0)).map nodeName
  distinct : (calls.filterMap (Call.taken? ownLists)).Nodup
  entered : (calls.filterMap Call.list?).length = n.listCount
  paired : ∃ below, calls = callsArrive parent slot n before ++ below ∧ Paired below
  edges : calls.filterMap Call.edgeId? =
    (List.range' before.edges (if parent.isSome then n.count else n.count - 1)).map edgeName
  children : calls.filterMap Call.childId? =
    (calls.filterMap Call.nodeId?).drop (if parent.isSome then 0 else 1)
  parents : ∃ below, calls.filterMap Call.parentId? = parent.toList ++ below ∧
    List.Forall₂ (Node.Holder.Resolves (fun k => (calls.filterMap Call.nodeId?)[k]?)
      (fun k => (calls.filterMap Call.list?)[k]?)) (n.holders 0 0) below
  after_eq : after = ⟨before.nodes + (n.count + if ownLists then n.listCount else 0),
    before.edges + if parent.isSome then n.count else n.count - 1⟩

theorem stretch_descend (allocates : e.Allocates ownLists) (id slot : String) (n : Node)
    (s : Session × σ) :
    Stretch ownLists s.1 (e.descend id slot n s).1 (n.children.flatMap Node.preorder)
      (Node.filled n.lists + Node.filledIn (n.children.flatMap Node.preorder))
      (e.callsDescend id slot n s) :=
  .descend id slot n s (stretch_walkSingular allocates n.singular id s)
    (stretch_walkLists allocates n.lists id _)

theorem Visits.of_below {parent : Option String} {slot : String} {n : Node}
    {before after : Session} {rest : List Call}
    (below : Stretch ownLists ⟨before.nodes + 1, before.edges + parent.toList.length⟩ after
      (n.children.flatMap Node.preorder)
      (Node.filled n.lists + Node.filledIn (n.children.flatMap Node.preorder)) rest)
    (linked : ∀ ids lists, ids 0 = some (nodeName before.nodes) →
      Linked ids lists 1 0 (n.holders 0 0) rest) :
    Visits ownLists parent slot n before after (callsArrive parent slot n before ++ rest) := by
  have lists : Node.filled n.lists + Node.filledIn (n.children.flatMap Node.preorder) =
      n.listCount := by
    rw [Node.listCount, Node.preorder_eq, Node.filledIn_cons]
  have count : n.count = (n.children.flatMap Node.preorder).length + 1 := by
    rw [← Node.length_preorder, Node.preorder_eq, List.length_cons]
  rw [lists] at below
  have visited : (callsArrive parent slot n before ++ rest).filterMap Call.node? =
      n.preorder := by
    rw [List.filterMap_append, below.visited, Node.preorder_eq]
    cases parent <;> rfl
  have ids : (callsArrive parent slot n before ++ rest).filterMap Call.nodeId? =
      nodeName before.nodes :: rest.filterMap Call.nodeId? := by
    rw [List.filterMap_append]
    cases parent <;> rfl
  have taken : (callsArrive parent slot n before ++ rest).filterMap (Call.taken? ownLists) =
      (List.range' before.nodes (n.count + if ownLists then n.listCount else 0)).map nodeName := by
    rw [List.filterMap_append, below.taken, count, Nat.add_right_comm, List.range'_succ]
    cases parent <;> rfl
  have entered : (callsArrive parent slot n before ++ rest).filterMap Call.list? =
      rest.filterMap Call.list? := by
    rw [List.filterMap_append]
    cases parent <;> rfl
  constructor
  case visited => exact visited
  case count => rw [visited, Node.length_preorder]
  case taken => exact taken
  case distinct =>
    rw [taken]
    exact nodup_map_nodeName _ _
  case entered => rw [entered, below.entered]
  case paired => exact ⟨rest, rfl, below.paired⟩
  case edges =>
    rw [List.filterMap_append, below.edges, count]
    cases parent <;> rfl
  case children =>
    rw [ids, List.filterMap_append, below.paired.children]
    cases parent <;> rfl
  case parents =>
    refine ⟨rest.filterMap Call.parentId?, ?_, ?_⟩
    · rw [List.filterMap_append]
      cases parent <;> rfl
    · rw [ids, entered]
      exact linked _ _ rfl (tabulates_getElem? [nodeName before.nodes] _)
        (tabulates_getElem? [] _)
  case after_eq =>
    rw [below.after_eq, count, Nat.add_right_comm, Nat.add_assoc, Nat.add_right_comm _ 1]
    cases parent with
    | none => rfl
    | some parentId => exact congrArg (Session.mk _) (Nat.add_right_comm _ 1 _)

theorem visits_calls (allocates : e.Allocates ownLists) (parent : Option String) (slot : String)
    (n : Node) (s : Session × σ) :
    Visits ownLists parent slot n s.1 (e.walk parent slot n s).1 (e.calls parent slot n s) := by
  have arrived : (e.arrive parent slot n s).1 =
      ⟨s.1.nodes + 1, s.1.edges + parent.toList.length⟩ := by
    cases parent <;> rfl
  have below := stretch_descend allocates s.1.nextNode.1 slot n (e.arrive parent slot n s)
  rw [arrived] at below
  rw [walk_eq_descend, calls_eq]
  refine .of_below below ?_
  intro ids lists known
  exact linked_descend allocates n s.1.nextNode.1 slot _ 0 0 known

/-- A walk visits the tree in pre-order and numbers without gaps, and recording it changes
nothing. -/
theorem walk_visits {ownLists : Bool} (e : Encoder σ) (allocates : e.Allocates ownLists)
    (parent : Option String) (slot : String) (n : Node) (s : Session × σ) :
    e.recording.walk parent slot n (s.1, s.2, []) =
        ((e.walk parent slot n s).1, (e.walk parent slot n s).2, e.calls parent slot n s) ∧
      Visits ownLists parent slot n s.1 (e.walk parent slot n s).1 (e.calls parent slot n s) :=
  ⟨e.recording_walk parent slot n s [], visits_calls allocates parent slot n s⟩

theorem allocates_trace (ownLists : Bool) : (trace ownLists).Allocates ownLists := by
  intro parentId slot length session steps
  cases ownLists with
  | false => rfl
  | true => exact ⟨rfl, rfl⟩

/-- A tree with an empty slot, an empty list and a list in a list, below a parent and in the middle
of a session. -/
theorem walk_visits_list_in_list :
    let leaf : Node := .mk { typeName := "Leaf" } [] []
    let inner : Node := .mk { typeName := "Inner" } [] [("leaves", [leaf, leaf])]
    let tree : Node := .mk { typeName := "Tree" } [("left", none), ("right", some leaf)]
      [("rows", [inner, leaf]), ("columns", []), ("leaves", [leaf])]
    (trace true).Allocates true ∧
      (trace true).recording.walk (some "n2") "tree" tree (⟨3, 7⟩, [], []) =
        (((trace true).walk (some "n2") "tree" tree (⟨3, 7⟩, [])).1,
          ((trace true).walk (some "n2") "tree" tree (⟨3, 7⟩, [])).2,
          (trace true).calls (some "n2") "tree" tree (⟨3, 7⟩, [])) ∧
      Visits true (some "n2") "tree" tree ⟨3, 7⟩
        ((trace true).walk (some "n2") "tree" tree (⟨3, 7⟩, [])).1
        ((trace true).calls (some "n2") "tree" tree (⟨3, 7⟩, [])) :=
  ⟨allocates_trace true,
    walk_visits (trace true) (allocates_trace true) (some "n2") "tree" _ (⟨3, 7⟩, [])⟩

end Walks

end Encoder

end SyntaxExport
