import SyntaxExport.Encoder.Outline
import SyntaxExport.Proofs.Preorder
import SyntaxExport.Proofs.Recording

/-!
# The outline as a drawing

The encoder tells the last child of a node by counting down from the number of its children, while
the nodes come from the loops of the walk over single slots and lists. `sketch` draws the same lines
by recursion on the children alone, where the last child is the last of a list.

Results:
1. `Draws.append`: siblings visited one after the other are drawn one after the other.
2. `draws_walk`: a walk draws a node with all below it and counts down by one.
3. `run_eq_sketch`, `counts_recorded`: the outline of a tree is its sketch, and every count is the
   number of siblings still to come.
-/

namespace SyntaxExport.Encoder.Outline

section Drawing

variable (render : Node → String)

/-- The lines of siblings and of all below them, each after `indent`. The last sibling has a corner,
and the lines below it go on without a bar. -/
def branches (indent : String) : List Node → String
  | [] => ""
  | n :: rest =>
      indent ++ (if rest.isEmpty then "└─" else "├─") ++ render n ++ "\n" ++
        branches (indent ++ if rest.isEmpty then "  " else "│ ") n.children ++
        branches indent rest
termination_by nodes => Node.total nodes
decreasing_by
  · rw [Node.total_cons, Node.count_eq]
    omega
  · have := n.count_pos
    rw [Node.total_cons]
    omega

/-- The lines of a tree: that of its top, with nothing before it, and those of the branches. -/
def sketch (root : Node) : String :=
  render root ++ "\n" ++ branches render "" root.children

/-- The nodes of some siblings and of all below them, in pre-order, each with the number of its own
siblings that come after it. -/
def followed : List Node → List (Node × Nat)
  | [] => []
  | n :: rest => (n, rest.length) :: (followed n.children ++ followed rest)
termination_by nodes => Node.total nodes
decreasing_by
  · rw [Node.total_cons, Node.count_eq]
    omega
  · have := n.count_pos
    rw [Node.total_cons]
    omega

/-- A node under a parent, with the parent's count right before and right after its line. -/
structure Count where
  node : Node
  before : Nat
  after : Nat

/-- The counts of siblings and of all below them if every count is the number of children still to
come. -/
def counting (nodes : List Node) : List Count :=
  (followed nodes).map fun entry => ⟨entry.1, entry.2 + 1, entry.2⟩

/-- The count of the parent when a call reaches a node under it. -/
def count? (s : State) (call : Call) : Option Count :=
  match call, s.stack, ((outline render).perform s call).stack with
  | .node _ _ n, before :: _, _ :: after :: _ => some ⟨n, before.remaining, after.remaining⟩
  | _, _, _ => none

/-- The counts that the encoder has while it is called, in order. -/
def counts (s : State) : List Call → List Count
  | [] => []
  | call :: rest => (count? render s call).toList ++ counts ((outline render).perform s call) rest

theorem counts_append (s : State) (front back : List Call) :
    counts render s (front ++ back) =
      counts render s front ++ counts render (front.foldl (outline render).perform s) back := by
  induction front generalizing s with
  | nil => rfl
  | cons call rest ih =>
    rw [List.cons_append, counts, counts, ih, List.append_assoc, List.foldl_cons]

/-! ## Siblings in a row -/

/-- From one state to another the siblings `nodes` were drawn and those in `later` are still to
come: with the lines of the latter all lines are there. -/
structure Drawn (nodes later : List Node) (indent : String) (frames : List Frame) (s s' : State)
    (seen : List Count) : Prop where
  stack : s'.stack = ⟨later.length, indent⟩ :: frames
  lines : s'.out ++ branches render indent later = s.out ++ branches render indent (nodes ++ later)
  counts : seen ++ counting later = counting (nodes ++ later)

/-- The calls draw these siblings in whatever place the state has room for them. -/
def Draws (nodes : List Node) (calls : List Call) : Prop :=
  ∀ (later : List Node) (s : State) (indent : String) (frames : List Frame),
    s.stack = ⟨(nodes ++ later).length, indent⟩ :: frames →
      Drawn render nodes later indent frames s (calls.foldl (outline render).perform s)
        (counts render s calls)

theorem Draws.nil : Draws render [] [] := by
  intro later s indent frames room
  exact ⟨room, rfl, rfl⟩

theorem Draws.append {front back : List Node} {calls calls' : List Call}
    (first : Draws render front calls) (second : Draws render back calls') :
    Draws render (front ++ back) (calls ++ calls') := by
  intro later s indent frames room
  rw [List.append_assoc] at room
  have drawn := first (back ++ later) s indent frames room
  have drawn' := second later _ indent frames drawn.stack
  rw [List.foldl_append, counts_append]
  refine ⟨drawn'.stack, ?_, ?_⟩
  · rw [drawn'.lines, drawn.lines, List.append_assoc]
  · rw [List.append_assoc, drawn'.counts, drawn.counts, List.append_assoc]

/-- A call that neither reaches nor leaves a node changes nothing. -/
theorem Draws.skip {call : Call} (still : ∀ s, (outline render).perform s call = s)
    (silent : ∀ s, count? render s call = none) : Draws render [] [call] := by
  intro later s indent frames room
  rw [List.foldl_cons, still, counts, still, silent]
  exact Draws.nil render later s indent frames room

/-- The parent counts this node too, so one is taken off and nothing is cut short. -/
theorem node_of_stack {s : State} {later : List Node} {indent : String} {frames : List Frame}
    (room : s.stack = ⟨later.length + 1, indent⟩ :: frames) (id slot : String) (n : Node) :
    Outline.node render id slot n s =
      ⟨s.out ++ indent ++ (if later.isEmpty then "└─" else "├─") ++ render n ++ "\n",
        ⟨n.children.length, indent ++ if later.isEmpty then "  " else "│ "⟩ ::
          ⟨later.length, indent⟩ :: frames⟩ := by
  rw [Outline.node, room]
  cases later <;> rfl

theorem count?_of_stack {s : State} {later : List Node} {indent : String} {frames : List Frame}
    (room : s.stack = ⟨later.length + 1, indent⟩ :: frames) (id slot : String) (n : Node) :
    count? render s (.node id slot n) = some ⟨n, later.length + 1, later.length⟩ := by
  have reached : (outline render).perform s (.node id slot n) = Outline.node render id slot n s :=
    rfl
  simp only [count?, reached, node_of_stack render room, room]

/-- Siblings after which no more come. -/
theorem Draws.complete {nodes : List Node} {calls : List Call} (draws : Draws render nodes calls)
    {s : State} {indent : String} {frames : List Frame}
    (room : s.stack = ⟨nodes.length, indent⟩ :: frames) :
    (calls.foldl (outline render).perform s).stack.tail = frames ∧
      (calls.foldl (outline render).perform s).out = s.out ++ branches render indent nodes ∧
      counts render s calls = counting nodes := by
  obtain ⟨stack, lines, seen⟩ := draws [] s indent frames (by rw [List.append_nil, room])
  have none : counting [] = [] := by rw [counting, followed, List.map_nil]
  rw [List.append_nil, branches, String.append_empty] at lines
  rw [List.append_nil, none, List.append_nil] at seen
  exact ⟨congrArg List.tail stack, lines, seen⟩

/-- A node that has its line, then its children drawn, and is left, was drawn. -/
theorem Draws.node {n : Node} {below : List Call} (children : Draws render n.children below)
    (edgeId parentId id slot : String) :
    Draws render [n]
      ([.node id slot n, .edge edgeId parentId id] ++ (below ++ [.leaveNode id slot n])) := by
  intro later s indent frames room
  have room : s.stack = ⟨later.length + 1, indent⟩ :: frames := room
  have reached : [Call.node id slot n, .edge edgeId parentId id].foldl (outline render).perform s =
      Outline.node render id slot n s := rfl
  have counted : counts render s [.node id slot n, .edge edgeId parentId id] =
      [⟨n, later.length + 1, later.length⟩] := by
    rw [counts, count?_of_stack render room]
    rfl
  have left (s : State) : counts render s [.leaveNode id slot n] = [] := rfl
  have line := node_of_stack render room id slot n
  obtain ⟨stack, lines, seen⟩ := children.complete render (congrArg State.stack line)
  rw [congrArg State.out line] at lines
  rw [List.foldl_append, List.foldl_append, counts_append, counts_append, reached, counted, left,
    List.append_nil, seen]
  refine ⟨stack, ?_, ?_⟩
  · refine (congrArg (· ++ branches render indent later) lines).trans ?_
    rw [List.singleton_append, branches]
    simp only [String.append_assoc]
  · rw [List.singleton_append, List.singleton_append, counting, counting, counting, followed,
      List.map_cons, List.map_append]
    rfl

/-! ## Walks -/

mutual

theorem draws_walk : (n : Node) → (parentId slot : String) → (s : Session × State) →
    Draws render [n] ((outline render).calls (some parentId) slot n s)
  | .mk info singular lists, parentId, slot, s => by
    have slots := draws_walkSingular singular s.1.nextNode.1
      ((outline render).arrive (some parentId) slot (.mk info singular lists) s)
    have items := draws_walkLists lists s.1.nextNode.1
      ((outline render).walkSingular s.1.nextNode.1 singular
        ((outline render).arrive (some parentId) slot (.mk info singular lists) s))
    have children : Draws render (Node.mk info singular lists).children _ :=
      slots.append render items
    rw [calls_eq]
    exact children.node render s.1.nextEdge.1 parentId s.1.nextNode.1 slot

theorem draws_walkSingular : (singular : List (String × Option Node)) → (id : String) →
    (s : Session × State) →
    Draws render (singular.filterMap Prod.snd) ((outline render).callsSingular id singular s)
  | [], id, s => by
    rw [callsSingular, walkSingular]
    exact .nil render
  | (_, none) :: rest, id, s => by
    rw [callsSingular, walkSingular]
    exact draws_walkSingular rest id s
  | (slot, some n) :: rest, id, s => by
    rw [callsSingular_some]
    exact (draws_walk n id slot s).append render (draws_walkSingular rest id _)

theorem draws_walkLists : (lists : List (String × List Node)) → (id : String) →
    (s : Session × State) →
    Draws render (lists.flatMap Prod.snd) ((outline render).callsLists id lists s)
  | [], id, s => by
    rw [callsLists, walkLists]
    exact .nil render
  | (slot, []) :: rest, id, s => by
    rw [callsLists, walkLists_cons]
    exact draws_walkLists rest id s
  | (slot, n :: items) :: rest, id, s => by
    have entered : Draws render [] [.enterList id slot (n :: items).length s.1 none] :=
      .skip render (fun _ => rfl) fun _ => rfl
    have left : Draws render [] [.leaveList slot] := .skip render (fun _ => rfl) fun _ => rfl
    rw [callsLists_cons _ id slot rfl]
    have visited := draws_walkItems (n :: items) id (Text.singularize slot) s
    exact (entered.append render visited).append render
      (left.append render (draws_walkLists rest id _))

theorem draws_walkItems : (items : List Node) → (parentId slot : String) →
    (s : Session × State) → Draws render items ((outline render).callsItems parentId slot items s)
  | [], parentId, slot, s => by
    rw [callsItems, walkItems]
    exact .nil render
  | n :: rest, parentId, slot, s => by
    rw [callsItems_cons]
    exact (draws_walk n parentId slot s).append render (draws_walkItems rest parentId slot _)

end

/-- A whole walk reaches the top, draws its children and leaves it. -/
theorem exists_recorded (root : Node) : ∃ below, Draws render root.children below ∧
    (outline render).recorded .empty root = .node Session.fresh.nextNode.1 "root" root ::
      (below ++ [.leaveNode Session.fresh.nextNode.1 "root" root]) := by
  have slots := draws_walkSingular render root.singular Session.fresh.nextNode.1
    ((outline render).arrive none "root" root (Session.fresh, .empty))
  have items := draws_walkLists render root.lists Session.fresh.nextNode.1
    ((outline render).walkSingular Session.fresh.nextNode.1 root.singular
      ((outline render).arrive none "root" root (Session.fresh, .empty)))
  refine ⟨_, slots.append render items, ?_⟩
  rw [recorded, calls_eq]
  rfl

/-- The top has a line without an indent, and counts its children. -/
theorem node_of_top (id slot : String) (root : Node) :
    Outline.node render id slot root .empty =
      ⟨render root ++ "\n", [⟨root.children.length, ""⟩]⟩ := by
  refine congrArg (State.mk · _) ?_
  rw [State.empty, String.empty_append]

theorem run_eq_sketch (root : Node) : (outline render).run .empty root = sketch render root := by
  obtain ⟨below, draws, recorded⟩ := exists_recorded render root
  have top := node_of_top render Session.fresh.nextNode.1 "root" root
  obtain ⟨_, lines, _⟩ := draws.complete render (congrArg State.stack top)
  rw [run_eq_finish, recorded, List.foldl_cons, List.foldl_append]
  exact lines.trans (congrArg (· ++ _) (congrArg State.out top))

theorem counts_recorded (root : Node) :
    counts render .empty ((outline render).recorded .empty root) = counting root.children := by
  obtain ⟨below, draws, recorded⟩ := exists_recorded render root
  have top := node_of_top render Session.fresh.nextNode.1 "root" root
  have reached : (outline render).perform .empty (.node Session.fresh.nextNode.1 "root" root) =
      Outline.node render Session.fresh.nextNode.1 "root" root .empty := rfl
  have uncounted : count? render .empty (.node Session.fresh.nextNode.1 "root" root) = none := rfl
  have left (s : State) : counts render s [.leaveNode Session.fresh.nextNode.1 "root" root] = [] :=
    rfl
  obtain ⟨_, _, seen⟩ := draws.complete render (congrArg State.stack top)
  rw [recorded, counts, uncounted, counts_append, left, List.append_nil, reached, seen]
  rfl

/-- The outline of a tree is its sketch, whatever its lines show. While it is written, the count of
an open node is never zero when a child comes, and with the child's line it becomes the number of
children after it, which is zero for the last one alone. -/
theorem outline_drawn (root : Node) :
    (outline render).run .empty root = sketch render root ∧
      counts render .empty ((outline render).recorded .empty root) =
        (followed root.children).map fun entry => ⟨entry.1, entry.2 + 1, entry.2⟩ :=
  ⟨run_eq_sketch render root, counts_recorded render root⟩

end Drawing

end SyntaxExport.Encoder.Outline
