import Mathlib.Data.List.Basic
import SyntaxExport.Node

/-!
# Pre-order

`Node.preorder` lists a node before all that is below it, child after child. The rank of a node is
its place in that list, counted from zero. A child starts where the nodes below its elder siblings
end, so ranks are sums of `Node.count`.

Results:
1. `length_preorder`: the list has as many nodes as `Node.count` says.
2. `map_fst_childPairs`: the parent relation names the nodes below in pre-order.
3. `lt_of_mem_childPairs`: a parent comes before its child.
4. `preorder_mapInfo`, `parentPairs_mapInfo`: what nodes say about themselves does not matter to the
   shape of the tree.
-/

namespace SyntaxExport.Node

theorem sizeOf_lt_of_mem_children {n c : Node} (child : c ∈ n.children) : sizeOf c < sizeOf n := by
  obtain ⟨info, singular, lists⟩ := n
  rw [children, List.mem_append, List.mem_filterMap, List.mem_flatMap] at child
  rcases child with ⟨slot, present, held⟩ | ⟨slot, present, held⟩
  · have inSlots := List.sizeOf_lt_of_mem present
    obtain ⟨name, content⟩ := slot
    subst held
    simp only [Node.singular, Node.mk.sizeOf_spec, Prod.mk.sizeOf_spec, Option.some.sizeOf_spec]
      at inSlots ⊢
    omega
  · have inSlots := List.sizeOf_lt_of_mem present
    have inItems := List.sizeOf_lt_of_mem held
    obtain ⟨name, items⟩ := slot
    simp only [Node.lists, Node.mk.sizeOf_spec, Prod.mk.sizeOf_spec] at inSlots inItems ⊢
    omega

/-- What holds of a node whenever it holds of its children holds of every node. -/
theorem children_induction {P : Node → Prop} (step : ∀ n : Node, (∀ c ∈ n.children, P c) → P n)
    (n : Node) : P n :=
  step n fun c child =>
    have := sizeOf_lt_of_mem_children child
    children_induction step c
termination_by n

/-! ## Counts -/

/-- The number of nodes of several trees. -/
def total : List Node → Nat
  | [] => 0
  | n :: rest => n.count + total rest

@[simp] theorem total_nil : total [] = 0 := rfl

@[simp] theorem total_cons (n : Node) (rest : List Node) :
    total (n :: rest) = n.count + total rest := rfl

@[simp] theorem total_append (front back : List Node) :
    total (front ++ back) = total front + total back := by
  induction front with
  | nil => rw [List.nil_append, total_nil, Nat.zero_add]
  | cons n rest ih => rw [List.cons_append, total_cons, total_cons, ih, Nat.add_assoc]

theorem countItems_eq (items : List Node) : countItems items = total items := by
  induction items with
  | nil => rfl
  | cons n rest ih => rw [countItems, ih, total_cons]

theorem countSingular_eq (singular : List (String × Option Node)) :
    countSingular singular = total (singular.filterMap Prod.snd) := by
  induction singular with
  | nil => rfl
  | cons slot rest ih =>
    obtain ⟨name, _ | n⟩ := slot
    · simp [countSingular, ih]
    · simp [countSingular, ih]

theorem countLists_eq (lists : List (String × List Node)) :
    countLists lists = total (lists.flatMap Prod.snd) := by
  induction lists with
  | nil => rfl
  | cons slot rest ih =>
    obtain ⟨name, items⟩ := slot
    rw [countLists, ih, countItems_eq, List.flatMap_cons, total_append]

theorem count_eq (n : Node) : n.count = 1 + total n.children := by
  obtain ⟨info, singular, lists⟩ := n
  rw [count, countSingular_eq, countLists_eq, children, total_append, Nat.add_assoc]
  rfl

theorem count_pos (n : Node) : 0 < n.count := by
  rw [count_eq]
  omega

/-! ## The list of nodes -/

/-- The nodes of a tree: a node, then all nodes below its children, child after child. -/
def preorder (n : Node) : List Node :=
  n :: n.children.attach.flatMap fun child => child.1.preorder
termination_by n
decreasing_by exact sizeOf_lt_of_mem_children child.2

theorem preorder_eq (n : Node) : n.preorder = n :: n.children.flatMap preorder := by
  rw [preorder, List.flatMap_subtype (g := preorder) fun _ _ => rfl, List.unattach_attach]

theorem mem_preorder_iff {n m : Node} :
    m ∈ n.preorder ↔ m = n ∨ ∃ c ∈ n.children, m ∈ c.preorder := by
  rw [preorder_eq, List.mem_cons, List.mem_flatMap]

theorem length_flatMap_of_forall {nodes : List Node}
    (each : ∀ n ∈ nodes, n.preorder.length = n.count) :
    (nodes.flatMap preorder).length = total nodes := by
  induction nodes with
  | nil => rfl
  | cons n rest ih =>
    rw [List.forall_mem_cons] at each
    rw [List.flatMap_cons, List.length_append, each.1, ih each.2, total_cons]

theorem length_preorder (n : Node) : n.preorder.length = n.count := by
  induction n using children_induction with
  | step n ih =>
    rw [preorder_eq, List.length_cons, length_flatMap_of_forall ih, count_eq, Nat.add_comm]

theorem length_flatMap_preorder (nodes : List Node) :
    (nodes.flatMap preorder).length = total nodes :=
  length_flatMap_of_forall fun n _ => length_preorder n

/-! ## Parents -/

/-- The parents of all nodes of some siblings, in pre-order, as pairs of the child's rank and the
parent's. The siblings are children of the node of rank `owner`, and the first has rank `next`. -/
def childPairs (owner next : Nat) : List Node → List (Nat × Nat)
  | [] => []
  | c :: rest =>
      (next, owner) ::
        (childPairs next (next + 1) c.children ++ childPairs owner (next + c.count) rest)
termination_by nodes => total nodes
decreasing_by
  · rw [total_cons, count_eq]
    omega
  · have := c.count_pos
    rw [total_cons]
    omega

/-- The parent relation of a tree: for every node but the first its rank and the rank of its parent,
in pre-order. -/
def parentPairs (n : Node) : List (Nat × Nat) :=
  childPairs 0 1 n.children

theorem childPairs_append (owner next : Nat) (front back : List Node) :
    childPairs owner next (front ++ back) =
      childPairs owner next front ++ childPairs owner (next + total front) back := by
  induction front generalizing next with
  | nil => simp [childPairs]
  | cons c rest ih =>
    rw [List.cons_append, childPairs, childPairs, ih, total_cons, List.cons_append,
      List.append_assoc, Nat.add_assoc]

theorem map_fst_childPairs (owner next : Nat) (nodes : List Node) :
    (childPairs owner next nodes).map Prod.fst = List.range' next (total nodes) := by
  fun_induction childPairs owner next nodes with
  | case1 => rfl
  | case2 owner next c rest ihBelow ihRest =>
    have split : total (c :: rest) = total c.children + total rest + 1 := by
      rw [total_cons, count_eq]
      omega
    have start : next + c.count = next + 1 + total c.children := by
      rw [count_eq]
      omega
    rw [List.map_cons, List.map_append, ihBelow, ihRest, split, start, List.range'_succ,
      List.range'_append_1]

theorem length_parentPairs (n : Node) : n.parentPairs.length = n.count - 1 := by
  have ranks := congrArg List.length (map_fst_childPairs 0 1 n.children)
  rw [List.length_map, List.length_range'] at ranks
  rw [parentPairs, ranks, count_eq, Nat.add_sub_cancel_left]

/-- A parent comes before its child. -/
theorem lt_of_mem_childPairs {owner next : Nat} {nodes : List Node} (below : owner < next)
    {child parent : Nat} (pair : (child, parent) ∈ childPairs owner next nodes) :
    parent < child := by
  fun_induction childPairs owner next nodes with
  | case1 => cases pair
  | case2 owner next c rest ihBelow ihRest =>
    rcases List.mem_cons.mp pair with here | later
    · cases here
      exact below
    · rcases List.mem_append.mp later with inside | after
      · exact ihBelow (Nat.lt_succ_self next) inside
      · exact ihRest (Nat.lt_add_right c.count below) after

theorem lt_of_lookup_parentPairs {n : Node} {child parent : Nat}
    (known : n.parentPairs.lookup child = some parent) : parent < child := by
  obtain ⟨front, back, split, _⟩ := List.lookup_eq_some_iff.mp known
  have pair : (child, parent) ∈ n.parentPairs :=
    split ▸ List.mem_append_right _ (List.mem_cons_self ..)
  exact lt_of_mem_childPairs Nat.zero_lt_one pair

theorem lt_count_of_mem_parentPairs {n : Node} {child parent : Nat}
    (pair : (child, parent) ∈ n.parentPairs) : child < n.count := by
  have ranked : child ∈ (childPairs 0 1 n.children).map Prod.fst := List.mem_map_of_mem pair
  rw [map_fst_childPairs, List.mem_range'_1] at ranked
  rw [count_eq]
  exact ranked.2

/-! ## Changing what nodes say -/

section MapInfo

variable (f : NodeInfo → NodeInfo)

mutual

/-- The tree with a change made to what each node says about itself. -/
def mapInfo : Node → Node
  | mk info singular lists => mk (f info) (mapInfoSingular singular) (mapInfoLists lists)

/-- Single slots with the trees in them changed. -/
def mapInfoSingular : List (String × Option Node) → List (String × Option Node)
  | [] => []
  | (slot, none) :: rest => (slot, none) :: mapInfoSingular rest
  | (slot, some n) :: rest => (slot, some (mapInfo n)) :: mapInfoSingular rest

/-- List slots with the trees in them changed. -/
def mapInfoLists : List (String × List Node) → List (String × List Node)
  | [] => []
  | (slot, items) :: rest => (slot, mapInfoItems items) :: mapInfoLists rest

/-- The items of a list, each changed. -/
def mapInfoItems : List Node → List Node
  | [] => []
  | n :: rest => mapInfo n :: mapInfoItems rest

end

theorem info_mapInfo (n : Node) : (n.mapInfo f).info = f n.info := by
  obtain ⟨info, singular, lists⟩ := n
  rw [mapInfo]
  rfl

theorem mapInfoItems_eq (items : List Node) : mapInfoItems f items = items.map (mapInfo f) := by
  induction items with
  | nil => rfl
  | cons n rest ih => rw [mapInfoItems, ih, List.map_cons]

theorem filterMap_mapInfoSingular (singular : List (String × Option Node)) :
    (mapInfoSingular f singular).filterMap Prod.snd =
      (singular.filterMap Prod.snd).map (mapInfo f) := by
  induction singular with
  | nil => rfl
  | cons slot rest ih =>
    obtain ⟨name, _ | n⟩ := slot
    · simp [mapInfoSingular, ih]
    · simp [mapInfoSingular, ih]

theorem flatMap_mapInfoLists (lists : List (String × List Node)) :
    (mapInfoLists f lists).flatMap Prod.snd = (lists.flatMap Prod.snd).map (mapInfo f) := by
  induction lists with
  | nil => rfl
  | cons slot rest ih =>
    obtain ⟨name, items⟩ := slot
    rw [mapInfoLists, List.flatMap_cons, ih, mapInfoItems_eq, List.flatMap_cons, List.map_append]

theorem children_mapInfo (n : Node) : (n.mapInfo f).children = n.children.map (mapInfo f) := by
  obtain ⟨info, singular, lists⟩ := n
  rw [mapInfo, children, children, List.map_append]
  exact congrArg₂ (· ++ ·) (filterMap_mapInfoSingular f singular) (flatMap_mapInfoLists f lists)

theorem preorder_mapInfo (n : Node) : (n.mapInfo f).preorder = n.preorder.map (mapInfo f) := by
  induction n using children_induction with
  | step n ih =>
    rw [preorder_eq, preorder_eq n, children_mapInfo, List.flatMap_map, List.map_cons,
      List.map_flatMap, List.flatMap_congr ih]

theorem count_mapInfo (n : Node) : (n.mapInfo f).count = n.count := by
  rw [← length_preorder, preorder_mapInfo, List.length_map, length_preorder]

theorem childPairs_map_mapInfo (owner next : Nat) (nodes : List Node) :
    childPairs owner next (nodes.map (mapInfo f)) = childPairs owner next nodes := by
  fun_induction childPairs owner next nodes with
  | case1 => rw [List.map_nil, childPairs]
  | case2 owner next c rest ihBelow ihRest =>
    rw [List.map_cons, childPairs, children_mapInfo, ihBelow, count_mapInfo, ihRest]

theorem parentPairs_mapInfo (n : Node) : (n.mapInfo f).parentPairs = n.parentPairs := by
  rw [parentPairs, children_mapInfo, childPairs_map_mapInfo]
  rfl

end MapInfo

end SyntaxExport.Node
