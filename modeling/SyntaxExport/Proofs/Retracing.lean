import SyntaxExport.Encoder.Trace
import SyntaxExport.Proofs.Condensed
import SyntaxExport.Proofs.Recording

/-!
# Trees from their steps

The steps of a walk name a node's slot and type, but an item of a list goes by the name of the list
without its plural ending, and a single slot may have that name too. Which nodes are items is told
by the steps around them alone: a list and a node are entered and left like brackets.

`track` follows the brackets that are open, and refuses a step that does not fit: what is left is
what was entered last, under the same name, and a list is left when as many nodes have been done in
it as it was entered for. `build` collects what stands inside the brackets and so puts a tree
together again.

Results:
1. `Takes.append`: steps in a row are followed in a row.
2. `takes_walk`: from any brackets that have room for it, a walk leads back to them, and its tree is
   delivered to the innermost one.
3. `walk_retraced`: the steps of every walk are nested and give the tree back.
-/

namespace SyntaxExport.Encoder

/-- The step of a call. Of a node it shows the type name. -/
def Call.step : Call → Step
  | .node id slot n => .node id slot n.typeName
  | .edge edgeId parentId childId => .edge edgeId parentId childId
  | .enterList parentId slot length _ _ => .enter parentId slot length
  | .leaveList slot => .leave slot
  | .leaveNode id slot _ => .done id slot

/-- The steps of a walk. -/
def steps {σ : Type} (e : Encoder σ) (parent : Option String) (slot : String) (n : Node)
    (s : Session × σ) : List Step :=
  (e.calls parent slot n s).map Call.step

/-! ## Nesting -/

/-- What has been entered and not left: a node, or a list with the number of items still to come. -/
inductive Entered where
  | node (id slot : String)
  | list (slot : String) (missing : Nat)
  deriving DecidableEq, Repr

/-- A node may come next under that name: in a list it is an item, and one is still missing. -/
def hasRoom (slot : String) : List Entered → Bool
  | .list name missing :: _ => missing != 0 && slot == Text.singularize name
  | _ => true

/-- The brackets after a node in the innermost one is done. -/
def settle : List Entered → List Entered
  | .list name missing :: outer => .list name (missing - 1) :: outer
  | brackets => brackets

/-- The brackets that are open after a step, the innermost first; none if the step does not fit. -/
def track (brackets : List Entered) : Step → Option (List Entered)
  | .node id slot _ => if hasRoom slot brackets then some (.node id slot :: brackets) else none
  | .edge _ _ childId =>
      match brackets with
      | .node id _ :: _ => if childId = id then some brackets else none
      | _ => none
  | .enter parentId slot length =>
      match brackets with
      | .node id _ :: _ => if parentId = id then some (.list slot length :: brackets) else none
      | _ => none
  | .leave slot =>
      match brackets with
      | .list name 0 :: outer => if slot = name then some outer else none
      | _ => none
  | .done id slot =>
      match brackets with
      | .node id' slot' :: outer => if id = id' ∧ slot = slot' then some (settle outer) else none
      | _ => none

/-- All steps fit, and nothing is left open. -/
def Nested (steps : List Step) : Prop :=
  steps.foldlM track [] = some []

/-! ## Building -/

/-- A node or a list that is being put together. -/
inductive Draft where
  | node (slot typeName : String) (singular : List (String × Option Node))
      (lists : List (String × List Node))
  | list (slot : String) (items : List Node)

/-- Puts a node that is done into the innermost draft. -/
def deliver (slot : String) (n : Node) : List Draft → List Draft
  | .node owner typeName singular lists :: outer =>
      .node owner typeName (singular ++ [(slot, some n)]) lists :: outer
  | .list name items :: outer => .list name (items ++ [n]) :: outer
  | [] => []

/-- The drafts after a step, the innermost first. -/
def build (drafts : List Draft) : Step → List Draft
  | .node _ slot typeName => .node slot typeName [] [] :: drafts
  | .edge _ _ _ => drafts
  | .enter _ slot _ => .list slot [] :: drafts
  | .leave _ =>
      match drafts with
      | .list slot items :: .node owner typeName singular lists :: outer =>
          .node owner typeName singular (lists ++ [(slot, items)]) :: outer
      | _ => drafts
  | .done _ _ =>
      match drafts with
      | .node slot typeName singular lists :: outer =>
          deliver slot (.mk { typeName } singular lists) outer
      | _ => drafts

/-- The tree that steps put together. -/
def rebuild? (steps : List Step) : Option Node :=
  match steps.foldl build [.list "" []] with
  | [.list _ [n]] => some n
  | _ => none

/-! ## Both along a walk -/

/-- The steps fit and lead from the first brackets and drafts to the second. -/
structure Takes (steps : List Step) (before after : List Entered × List Draft) : Prop where
  tracked : steps.foldlM track before.1 = some after.1
  built : steps.foldl build before.2 = after.2

namespace Takes

variable {front back : List Step} {a b c : List Entered × List Draft}

theorem nil (a : List Entered × List Draft) : Takes [] a a :=
  ⟨rfl, rfl⟩

theorem append (first : Takes front a b) (second : Takes back b c) : Takes (front ++ back) a c := by
  constructor
  · rw [List.foldlM_append, first.tracked]
    exact second.tracked
  · rw [List.foldl_append, first.built]
    exact second.built

theorem single {step : Step} (tracked : track a.1 step = some b.1) (built : build a.2 step = b.2) :
    Takes [step] a b := by
  refine ⟨?_, built⟩
  rw [List.foldlM_cons, tracked]
  rfl

end Takes

variable {σ : Type} (e : Encoder σ)

/-- A node is entered, and the edge that may follow leads to it. -/
theorem takes_arrive (parent : Option String) {slot : String} (n : Node) (session : Session)
    {brackets : List Entered} (room : hasRoom slot brackets = true) (drafts : List Draft) :
    Takes ((callsArrive parent slot n session).map Call.step) (brackets, drafts)
      (.node session.nextNode.1 slot :: brackets, .node slot n.typeName [] [] :: drafts) := by
  have entered : Takes [.node session.nextNode.1 slot n.typeName] (brackets, drafts)
      (.node session.nextNode.1 slot :: brackets, .node slot n.typeName [] [] :: drafts) :=
    .single (if_pos room) rfl
  cases parent with
  | none => exact entered
  | some parentId => exact entered.append (.single (if_pos rfl) rfl)

mutual

/-- A walk leads back to where it started, with its tree delivered. -/
theorem takes_walk : (n : Node) → (parent : Option String) → (slot : String) →
    (s : Session × σ) → (brackets : List Entered) → hasRoom slot brackets = true →
    (drafts : List Draft) →
    Takes (e.steps parent slot n s) (brackets, drafts)
      (settle brackets, deliver slot (n.condensed NodeInfo.bare) drafts)
  | .mk info singular lists, parent, slot, s, brackets, room, drafts => by
    have entered := takes_arrive parent (.mk info singular lists) s.1 room drafts
    have slots := takes_walkSingular singular s.1.nextNode.1 slot
      (e.arrive parent slot (.mk info singular lists) s) brackets slot info.typeName [] [] drafts
    have listed := takes_walkLists lists s.1.nextNode.1 slot
      (e.walkSingular s.1.nextNode.1 singular
        (e.arrive parent slot (.mk info singular lists) s)) brackets slot info.typeName
      ([] ++ Node.condensedSingular NodeInfo.bare singular) [] drafts
    have left : Takes [.done s.1.nextNode.1 slot]
        (.node s.1.nextNode.1 slot :: brackets,
          .node slot info.typeName ([] ++ Node.condensedSingular NodeInfo.bare singular)
            ([] ++ Node.condensedLists NodeInfo.bare lists) :: drafts)
        (settle brackets,
          deliver slot (Node.condensed NodeInfo.bare (.mk info singular lists)) drafts) := by
      refine .single (if_pos ⟨rfl, rfl⟩) ?_
      rw [Node.condensed]
      rfl
    rw [steps, calls_eq, callsDescend, List.map_append, List.map_append, List.map_append]
    exact entered.append ((slots.append listed).append left)

/-- The children in single slots are added to their node. -/
theorem takes_walkSingular : (singular : List (String × Option Node)) → (id slot : String) →
    (s : Session × σ) → (brackets : List Entered) → (owner typeName : String) →
    (present : List (String × Option Node)) → (lists : List (String × List Node)) →
    (drafts : List Draft) →
    Takes ((e.callsSingular id singular s).map Call.step)
      (.node id slot :: brackets, .node owner typeName present lists :: drafts)
      (.node id slot :: brackets,
        .node owner typeName (present ++ Node.condensedSingular NodeInfo.bare singular) lists ::
          drafts)
  | [], id, slot, s, brackets, owner, typeName, present, lists, drafts => by
    rw [callsSingular, walkSingular, Node.condensedSingular, List.append_nil]
    exact .nil _
  | (_, none) :: rest, id, slot, s, brackets, owner, typeName, present, lists, drafts => by
    rw [callsSingular, walkSingular, Node.condensedSingular]
    exact takes_walkSingular rest id slot s brackets owner typeName present lists drafts
  | (name, some n) :: rest, id, slot, s, brackets, owner, typeName, present, lists, drafts => by
    have first := takes_walk n (some id) name s (.node id slot :: brackets) rfl
      (.node owner typeName present lists :: drafts)
    have others := takes_walkSingular rest id slot (e.walk (some id) name n s) brackets owner
      typeName (present ++ [(name, some (n.condensed NodeInfo.bare))]) lists drafts
    rw [callsSingular_some, List.map_append, Node.condensedSingular, List.append_cons]
    exact first.append others

/-- The lists are added to their node. -/
theorem takes_walkLists : (lists : List (String × List Node)) → (id slot : String) →
    (s : Session × σ) → (brackets : List Entered) → (owner typeName : String) →
    (singular : List (String × Option Node)) → (present : List (String × List Node)) →
    (drafts : List Draft) →
    Takes ((e.callsLists id lists s).map Call.step)
      (.node id slot :: brackets, .node owner typeName singular present :: drafts)
      (.node id slot :: brackets,
        .node owner typeName singular (present ++ Node.condensedLists NodeInfo.bare lists) ::
          drafts)
  | [], id, slot, s, brackets, owner, typeName, singular, present, drafts => by
    rw [callsLists, walkLists, Node.condensedLists, List.append_nil]
    exact .nil _
  | (_, []) :: rest, id, slot, s, brackets, owner, typeName, singular, present, drafts => by
    rw [callsLists, walkLists_cons, Node.condensedLists]
    exact takes_walkLists rest id slot s brackets owner typeName singular present drafts
  | (name, n :: items) :: rest, id, slot, s, brackets, owner, typeName, singular, present,
      drafts => by
    have entered : Takes [.enter id name (n :: items).length]
        (.node id slot :: brackets, .node owner typeName singular present :: drafts)
        (.list name (n :: items).length :: .node id slot :: brackets,
          .list name [] :: .node owner typeName singular present :: drafts) :=
      .single (if_pos rfl) rfl
    have visited := takes_walkItems (n :: items)
      ((e.enterList id name (n :: items).length s.1 s.2).1.getD id) name
      (e.enterList id name (n :: items).length s.1 s.2).2 0 (.node id slot :: brackets) name []
      (.node owner typeName singular present :: drafts)
    have left : Takes [.leave name]
        (.list name 0 :: .node id slot :: brackets,
          .list name ([] ++ Node.condensedItems NodeInfo.bare (n :: items)) ::
            .node owner typeName singular present :: drafts)
        (.node id slot :: brackets,
          .node owner typeName singular
            (present ++ [(name, Node.condensedItems NodeInfo.bare (n :: items))]) :: drafts) :=
      .single (if_pos rfl) rfl
    have others := takes_walkLists rest id slot (e.visitList id name (n :: items) s) brackets owner
      typeName singular (present ++ [(name, Node.condensedItems NodeInfo.bare (n :: items))])
      drafts
    rw [Nat.zero_add] at visited
    rw [Node.condensedLists, if_neg (by simp), List.append_cons, callsLists_cons e id name rfl,
      List.map_append, List.map_cons, List.map_cons]
    exact (entered.append visited).append (left.append others)

/-- The items are added to their list, which then misses as many fewer. -/
theorem takes_walkItems : (items : List Node) → (parentId name : String) → (s : Session × σ) →
    (missing : Nat) → (brackets : List Entered) → (slot : String) → (present : List Node) →
    (drafts : List Draft) →
    Takes ((e.callsItems parentId (Text.singularize name) items s).map Call.step)
      (.list name (missing + items.length) :: brackets, .list slot present :: drafts)
      (.list name missing :: brackets,
        .list slot (present ++ Node.condensedItems NodeInfo.bare items) :: drafts)
  | [], parentId, name, s, missing, brackets, slot, present, drafts => by
    rw [callsItems, walkItems, Node.condensedItems, List.append_nil]
    exact .nil _
  | n :: rest, parentId, name, s, missing, brackets, slot, present, drafts => by
    have first := takes_walk n (some parentId) (Text.singularize name) s
      (.list name (missing + (rest.length + 1)) :: brackets) (by simp [hasRoom])
      (.list slot present :: drafts)
    have others := takes_walkItems rest parentId name
      (e.walk (some parentId) (Text.singularize name) n s) missing brackets slot
      (present ++ [n.condensed NodeInfo.bare]) drafts
    rw [callsItems_cons, List.map_append, Node.condensedItems, List.append_cons]
    exact first.append others

end

/-- The steps of a walk, whoever is called, are nested, and they give back the type names, the
children in single slots and the items of lists, all under their names and in order. So walks with
the same steps are walks over trees that differ in nothing but empty slots and what is not the type
of a node. -/
theorem walk_retraced (parent : Option String) (slot : String) (n : Node) (s : Session × σ) :
    Nested (e.steps parent slot n s) ∧
      rebuild? (e.steps parent slot n s) = some (n.condensed NodeInfo.bare) ∧
      ∀ {τ : Type} (f : Encoder τ) (parent' : Option String) (slot' : String) (m : Node)
        (t : Session × τ), f.steps parent' slot' m t = e.steps parent slot n s →
          m.condensed NodeInfo.bare = n.condensed NodeInfo.bare := by
  have rebuilt {τ : Type} (f : Encoder τ) (parent : Option String) (slot : String) (n : Node)
      (s : Session × τ) :
      rebuild? (f.steps parent slot n s) = some (n.condensed NodeInfo.bare) := by
    have built := (f.takes_walk n parent slot s [] rfl [.list "" []]).built
    rw [rebuild?, built]
    rfl
  refine ⟨(e.takes_walk n parent slot s [] rfl []).tracked, rebuilt e parent slot n s, ?_⟩
  intro τ f parent' slot' m t same
  have trees := (rebuilt f parent' slot' m t).symm.trans
    ((congrArg rebuild? same).trans (rebuilt e parent slot n s))
  exact Option.some_inj.mp trees

/-- A child in a single slot and an item of a list that go by the same name, once with an empty slot
beside the one and once with an empty list beside the other. -/
theorem walk_retraced_same_name :
    let leaf : Node := .mk { typeName := "Leaf" } [] []
    let a : Node := .mk { typeName := "Top" } [("part", some leaf), ("x", none)] [("parts", [leaf])]
    let b : Node := .mk { typeName := "Top" } [("part", some leaf)] [("xs", []), ("parts", [leaf])]
    let stepsOf (n : Node) := (trace true).steps none "root" n (Session.fresh, [])
    stepsOf a = stepsOf b ∧ Nested (stepsOf b) ∧
      rebuild? (stepsOf b) = some (b.condensed NodeInfo.bare) ∧
      a.condensed NodeInfo.bare = b.condensed NodeInfo.bare := by
  intro leaf a b stepsOf
  have same : stepsOf a = stepsOf b := rfl
  obtain ⟨nested, rebuilt, determined⟩ :=
    walk_retraced (trace true) none "root" b (Session.fresh, [])
  exact ⟨same, nested, rebuilt, determined (trace true) none "root" a (Session.fresh, []) same⟩

end SyntaxExport.Encoder
