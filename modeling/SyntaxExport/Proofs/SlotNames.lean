import SyntaxExport.Proofs.Preorder
import SyntaxExport.Proofs.Recording

/-!
# Names of slots

A walk hands each node to the encoder under a name: that of its single slot, or the singular of the
name of its list. So what all names of slots in a tree have in common holds of all names that an
encoder is told, whatever the encoder.

Results:
1. `under_walk`: a walk tells the name that it was given and names of slots of the tree only.
2. `slot_mem_of_recorded`: the same of whole walks.
-/

namespace SyntaxExport

namespace Node

/-- The names under which the children of a node stand. -/
def slotNames (n : Node) : List String :=
  n.singular.map Prod.fst ++ n.lists.map fun list => Text.singularize list.1

/-- The names under which the nodes below a node stand, in the whole tree. -/
def slots (n : Node) : List String :=
  n.preorder.flatMap slotNames

theorem forall_mem_slots {P : String → Prop} (n : Node) :
    (∀ name ∈ n.slots, P name) ↔
      (∀ name ∈ n.slotNames, P name) ∧ ∀ c ∈ n.children, ∀ name ∈ c.slots, P name := by
  have split : n.slots = n.slotNames ++ n.children.flatMap slots := by
    rw [slots, preorder_eq, List.flatMap_cons, List.flatMap_assoc]
    rfl
  rw [split, List.forall_mem_append, List.forall_mem_flatMap]

end Node

namespace Encoder

/-- The name under which the node of a call stands, when it is reached and when it is left. -/
def Call.slot? : Call → Option String
  | .node _ slot _ => some slot
  | .leaveNode _ slot _ => some slot
  | _ => none

/-- All nodes of the calls stand under names with that property. -/
def Under (P : String → Prop) (calls : List Call) : Prop :=
  ∀ name ∈ calls.filterMap Call.slot?, P name

section Walks

variable {σ : Type} (e : Encoder σ) {P : String → Prop}

theorem under_nil : Under P [] := nofun

theorem under_append {front back : List Call} :
    Under P (front ++ back) ↔ Under P front ∧ Under P back := by
  rw [Under, List.filterMap_append, List.forall_mem_append]
  rfl

theorem under_arrive {slot : String} (here : P slot) (parent : Option String) (n : Node)
    (session : Session) : Under P (callsArrive parent slot n session) := by
  have names : (callsArrive parent slot n session).filterMap Call.slot? = [slot] := by
    cases parent <;> rfl
  rw [Under, names]
  exact List.forall_mem_singleton.mpr here

mutual

theorem under_walk : (n : Node) → (parent : Option String) → (slot : String) →
    (s : Session × σ) → P slot → (∀ name ∈ n.slots, P name) → Under P (e.calls parent slot n s)
  | .mk info singular lists, parent, slot, s, here, below => by
    rw [Node.forall_mem_slots] at below
    obtain ⟨names, children⟩ := below
    rw [Node.slotNames, List.forall_mem_append, List.forall_mem_map, List.forall_mem_map] at names
    rw [Node.children, List.forall_mem_append] at children
    have last : Under P [.leaveNode s.1.nextNode.1 slot (.mk info singular lists)] :=
      List.forall_mem_singleton.mpr here
    rw [calls_eq, callsDescend, under_append, under_append, under_append]
    exact ⟨under_arrive here parent _ s.1,
      ⟨under_walkSingular singular _ _ names.1 children.1,
        under_walkLists lists _ _ names.2 children.2⟩, last⟩

theorem under_walkSingular : (singular : List (String × Option Node)) → (id : String) →
    (s : Session × σ) → (∀ slot ∈ singular, P slot.1) →
    (∀ c ∈ singular.filterMap Prod.snd, ∀ name ∈ c.slots, P name) →
    Under P (e.callsSingular id singular s)
  | [], id, s, _, _ => by
    rw [callsSingular, walkSingular]
    exact under_nil
  | (_, none) :: rest, id, s, names, children => by
    rw [callsSingular, walkSingular]
    exact under_walkSingular rest id s (List.forall_mem_cons.mp names).2 children
  | (slot, some n) :: rest, id, s, names, children => by
    rw [List.forall_mem_cons] at names
    rw [List.filterMap_cons, List.forall_mem_cons] at children
    rw [callsSingular_some, under_append]
    exact ⟨under_walk n _ slot s names.1 children.1,
      under_walkSingular rest id _ names.2 children.2⟩

theorem under_walkLists : (lists : List (String × List Node)) → (id : String) →
    (s : Session × σ) → (∀ list ∈ lists, P (Text.singularize list.1)) →
    (∀ c ∈ lists.flatMap Prod.snd, ∀ name ∈ c.slots, P name) →
    Under P (e.callsLists id lists s)
  | [], id, s, _, _ => by
    rw [callsLists, walkLists]
    exact under_nil
  | (slot, []) :: rest, id, s, names, children => by
    rw [callsLists, walkLists_cons]
    exact under_walkLists rest id s (List.forall_mem_cons.mp names).2 children
  | (slot, n :: items) :: rest, id, s, names, children => by
    rw [List.forall_mem_cons] at names
    rw [List.flatMap_cons, List.forall_mem_append] at children
    rw [callsLists_cons e id slot rfl, under_append]
    -- the calls that enter and leave the list tell no name of a node
    exact ⟨under_walkItems (n :: items) _ _ _ names.1 children.1,
      under_walkLists rest id _ names.2 children.2⟩

theorem under_walkItems : (items : List Node) → (parentId slot : String) →
    (s : Session × σ) → P slot → (∀ c ∈ items, ∀ name ∈ c.slots, P name) →
    Under P (e.callsItems parentId slot items s)
  | [], parentId, slot, s, _, _ => by
    rw [callsItems, walkItems]
    exact under_nil
  | n :: rest, parentId, slot, s, here, children => by
    rw [List.forall_mem_cons] at children
    rw [callsItems_cons, under_append]
    exact ⟨under_walk n _ slot s here children.1,
      under_walkItems rest parentId slot _ here children.2⟩

end

theorem slot_mem_of_recorded {start : σ} {root : Node} {call : Call}
    (present : call ∈ e.recorded start root) {slot : String} (told : call.slot? = some slot) :
    slot = "root" ∨ slot ∈ root.slots := by
  have under : Under (fun name => name = "root" ∨ name ∈ root.slots) (e.recorded start root) :=
    under_walk e root none "root" (Session.fresh, start) (.inl rfl) fun _ inside => .inr inside
  exact under slot (List.mem_filterMap.mpr ⟨call, present, told⟩)

end Walks

end Encoder

end SyntaxExport
