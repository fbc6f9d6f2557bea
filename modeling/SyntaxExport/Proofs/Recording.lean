import SyntaxExport.Walk

/-!
# Recorded walks

What a walk means for a format is the sequence of the steps it calls. `Encoder.recording` keeps that
sequence beside the state of an encoder, and `Encoder.calls` is the sequence of one walk.

Results:
1. `Simulates.walk`: two encoders whose steps keep a relation between their states, and which answer
   lists alike, keep it along a whole walk.
2. `recording_walk`: a recorded walk is the walk, with its calls added to those before.
3. `calls_eq`, `callsSingular_some`, `callsLists_cons`, `callsItems_cons`: the calls of a walk, put
   together from the calls of its parts.
4. `walk_eq_foldl_calls`: the state after a walk is a function of its calls.
-/

namespace SyntaxExport.Encoder

/-- A step that a walk called: what the encoder was given and, for a list, what it gave back. -/
inductive Call where
  | node (id slot : String) (n : Node)
  | edge (edgeId parentId childId : String)
  | enterList (parentId slot : String) (length : Nat) (session : Session) (given : Option String)
  | leaveList (slot : String)
  | leaveNode (id slot : String) (n : Node)

/-- The encoder with the calls made to it, in order. -/
def recording {σ : Type} (e : Encoder σ) : Encoder (σ × List Call) where
  node := fun id slot n s => (e.node id slot n s.1, s.2 ++ [.node id slot n])
  edge := fun edgeId parentId childId s =>
    (e.edge edgeId parentId childId s.1, s.2 ++ [.edge edgeId parentId childId])
  enterList := fun parentId slot length session s =>
    let (given, next, state) := e.enterList parentId slot length session s.1
    (given, next, state, s.2 ++ [.enterList parentId slot length session given])
  leaveList := fun slot s => (e.leaveList slot s.1, s.2 ++ [.leaveList slot])
  leaveNode := fun id slot n s => (e.leaveNode id slot n s.1, s.2 ++ [.leaveNode id slot n])
  finish := fun s => e.finish s.1

variable {σ τ : Type}

/-! ## The walk in parts -/

/-- Reaches a node: the node takes an identifier, and so does the edge from its parent. -/
def arrive (e : Encoder σ) (parent : Option String) (slot : String) (n : Node)
    (s : Session × σ) : Session × σ :=
  let (id, session) := s.1.nextNode
  let state := e.node id slot n s.2
  match parent with
  | some parentId =>
      let (edgeId, session) := session.nextEdge
      (session, e.edge edgeId parentId id state)
  | none => (session, state)

/-- Visits all that is below a node and leaves the node. -/
def descend (e : Encoder σ) (id slot : String) (n : Node) (s : Session × σ) : Session × σ :=
  let s := e.walkLists id n.lists (e.walkSingular id n.singular s)
  (s.1, e.leaveNode id slot n s.2)

/-- Visits a list that is not empty. -/
def visitList (e : Encoder σ) (id slot : String) (items : List Node) (s : Session × σ) :
    Session × σ :=
  let entered := e.enterList id slot items.length s.1 s.2
  let s := e.walkItems (entered.1.getD id) (Text.singularize slot) items entered.2
  (s.1, e.leaveList slot s.2)

theorem walk_eq_descend (e : Encoder σ) (parent : Option String) (slot : String) (n : Node)
    (s : Session × σ) :
    e.walk parent slot n s = e.descend s.1.nextNode.1 slot n (e.arrive parent slot n s) := by
  obtain ⟨info, singular, lists⟩ := n
  obtain ⟨session, state⟩ := s
  rw [walk]
  cases parent <;> rfl

theorem walkLists_cons (e : Encoder σ) (id slot : String) (items : List Node)
    (rest : List (String × List Node)) (s : Session × σ) :
    e.walkLists id ((slot, items) :: rest) s =
      if items.isEmpty then e.walkLists id rest s
      else e.walkLists id rest (e.visitList id slot items s) := by
  obtain ⟨session, state⟩ := s
  rw [walkLists]
  rfl

/-! ## Simulation -/

/-- The same session and related states. -/
def Alike (R : σ → τ → Prop) (s : Session × σ) (t : Session × τ) : Prop :=
  s.1 = t.1 ∧ R s.2 t.2

/-- The steps of the two encoders keep the relation, and lists get the same answer from both. -/
structure Simulates (e : Encoder σ) (f : Encoder τ) (R : σ → τ → Prop) : Prop where
  node : ∀ id slot n {s t}, R s t → R (e.node id slot n s) (f.node id slot n t)
  edge : ∀ edgeId parentId childId {s t}, R s t →
    R (e.edge edgeId parentId childId s) (f.edge edgeId parentId childId t)
  enterList : ∀ parentId slot length {s t}, Alike R s t →
    (e.enterList parentId slot length s.1 s.2).1 = (f.enterList parentId slot length t.1 t.2).1 ∧
      Alike R (e.enterList parentId slot length s.1 s.2).2
        (f.enterList parentId slot length t.1 t.2).2
  leaveList : ∀ slot {s t}, R s t → R (e.leaveList slot s) (f.leaveList slot t)
  leaveNode : ∀ id slot n {s t}, R s t → R (e.leaveNode id slot n s) (f.leaveNode id slot n t)

namespace Simulates

variable {e : Encoder σ} {f : Encoder τ} {R : σ → τ → Prop} {s : Session × σ} {t : Session × τ}

theorem arrive (simulates : Simulates e f R) (parent : Option String) (slot : String) (n : Node)
    (alike : Alike R s t) : Alike R (e.arrive parent slot n s) (f.arrive parent slot n t) := by
  obtain ⟨session, state⟩ := s
  obtain ⟨_, state'⟩ := t
  obtain ⟨rfl, related⟩ := alike
  cases parent with
  | none => exact ⟨rfl, simulates.node _ _ _ related⟩
  | some parentId => exact ⟨rfl, simulates.edge _ _ _ (simulates.node _ _ _ related)⟩

mutual

theorem walk (simulates : Simulates e f R) : (n : Node) → (parent : Option String) →
    (slot : String) → {s : Session × σ} → {t : Session × τ} → Alike R s t →
    Alike R (e.walk parent slot n s) (f.walk parent slot n t)
  | .mk info singular lists, parent, slot, s, t, alike => by
    rw [walk_eq_descend, walk_eq_descend, ← alike.1]
    have arrived := simulates.arrive parent slot (.mk info singular lists) alike
    have below := walkLists simulates lists s.1.nextNode.1
      (walkSingular simulates singular s.1.nextNode.1 arrived)
    exact ⟨below.1, simulates.leaveNode _ _ _ below.2⟩

theorem walkSingular (simulates : Simulates e f R) : (singular : List (String × Option Node)) →
    (id : String) → {s : Session × σ} → {t : Session × τ} → Alike R s t →
    Alike R (e.walkSingular id singular s) (f.walkSingular id singular t)
  | [], id, s, t, alike => by
    rw [Encoder.walkSingular, Encoder.walkSingular]
    exact alike
  | (_, none) :: rest, id, s, t, alike => by
    rw [Encoder.walkSingular, Encoder.walkSingular]
    exact walkSingular simulates rest id alike
  | (slot, some n) :: rest, id, s, t, alike => by
    rw [Encoder.walkSingular, Encoder.walkSingular]
    exact walkSingular simulates rest id (walk simulates n (some id) slot alike)

theorem walkLists (simulates : Simulates e f R) : (lists : List (String × List Node)) →
    (id : String) → {s : Session × σ} → {t : Session × τ} → Alike R s t →
    Alike R (e.walkLists id lists s) (f.walkLists id lists t)
  | [], id, s, t, alike => by
    rw [Encoder.walkLists, Encoder.walkLists]
    exact alike
  | (slot, items) :: rest, id, s, t, alike => by
    rw [walkLists_cons, walkLists_cons]
    split
    · exact walkLists simulates rest id alike
    · -- the items hang from what the list gave back, which is the same for both
      obtain ⟨given, entered⟩ := simulates.enterList id slot items.length alike
      have visited := walkItems simulates items
        ((f.enterList id slot items.length t.1 t.2).1.getD id) (Text.singularize slot) entered
      rw [← given] at visited
      refine walkLists simulates rest id ⟨?_, ?_⟩
      · rw [visitList, visitList, ← given]
        exact visited.1
      · rw [visitList, visitList, ← given]
        exact simulates.leaveList slot visited.2

theorem walkItems (simulates : Simulates e f R) : (items : List Node) → (parentId slot : String) →
    {s : Session × σ} → {t : Session × τ} → Alike R s t →
    Alike R (e.walkItems parentId slot items s) (f.walkItems parentId slot items t)
  | [], parentId, slot, s, t, alike => by
    rw [Encoder.walkItems, Encoder.walkItems]
    exact alike
  | n :: rest, parentId, slot, s, t, alike => by
    rw [Encoder.walkItems, Encoder.walkItems]
    exact walkItems simulates rest parentId slot (walk simulates n (some parentId) slot alike)

end

end Simulates

/-! ## The calls of a walk -/

section Calls

variable (e : Encoder σ)

/-- The calls made while a node and all below it are visited. -/
def calls (parent : Option String) (slot : String) (n : Node) (s : Session × σ) : List Call :=
  (e.recording.walk parent slot n (s.1, s.2, [])).2.2

/-- The calls made while the children in single slots are visited. -/
def callsSingular (id : String) (singular : List (String × Option Node)) (s : Session × σ) :
    List Call :=
  (e.recording.walkSingular id singular (s.1, s.2, [])).2.2

/-- The calls made while the items of the lists are visited. -/
def callsLists (id : String) (lists : List (String × List Node)) (s : Session × σ) : List Call :=
  (e.recording.walkLists id lists (s.1, s.2, [])).2.2

/-- The calls made while the items of a list are visited. -/
def callsItems (parentId slot : String) (items : List Node) (s : Session × σ) : List Call :=
  (e.recording.walkItems parentId slot items (s.1, s.2, [])).2.2

theorem simulates_recording : Simulates e.recording e (fun r s => r.1 = s) where
  node := by
    rintro _ _ _ r _ rfl
    rfl
  edge := by
    rintro _ _ _ r _ rfl
    rfl
  enterList := by
    rintro _ _ _ ⟨session, state, calls⟩ ⟨_, _⟩ ⟨rfl, rfl⟩
    exact ⟨rfl, rfl, rfl⟩
  leaveList := by
    rintro _ r _ rfl
    rfl
  leaveNode := by
    rintro _ _ _ r _ rfl
    rfl

/-- The same state, with calls that were made before. -/
def Prepended (front : List Call) (r r' : σ × List Call) : Prop :=
  r = (r'.1, front ++ r'.2)

theorem prepended_nil (front : List Call) (state : σ) :
    Prepended front (state, front) (state, []) :=
  congrArg (Prod.mk state) (List.append_nil front).symm

theorem simulates_recording_prepended (front : List Call) :
    Simulates e.recording e.recording (Prepended front) where
  node := by
    rintro _ _ _ _ r rfl
    exact congrArg (Prod.mk _) (List.append_assoc _ _ _)
  edge := by
    rintro _ _ _ _ r rfl
    exact congrArg (Prod.mk _) (List.append_assoc _ _ _)
  enterList := by
    rintro _ _ _ r r' ⟨same, prepended⟩
    obtain rfl : r = (r'.1, r'.2.1, front ++ r'.2.2) := Prod.ext same prepended
    exact ⟨rfl, rfl, congrArg (Prod.mk _) (List.append_assoc _ _ _)⟩
  leaveList := by
    rintro _ _ r rfl
    exact congrArg (Prod.mk _) (List.append_assoc _ _ _)
  leaveNode := by
    rintro _ _ _ _ r rfl
    exact congrArg (Prod.mk _) (List.append_assoc _ _ _)

theorem eq_of_alike {front : List Call} {r r' : Session × σ × List Call} {s : Session × σ}
    (same : Alike (fun r s => r.1 = s) r s)
    (prepended : Alike (Prepended front) r r') : r = (s.1, s.2, front ++ r'.2.2) := by
  have calls : r.2.2 = front ++ r'.2.2 := congrArg Prod.snd prepended.2
  rw [← same.1, ← same.2, ← calls]

theorem recording_walk (parent : Option String) (slot : String) (n : Node) (s : Session × σ)
    (front : List Call) :
    e.recording.walk parent slot n (s.1, s.2, front) =
      ((e.walk parent slot n s).1, (e.walk parent slot n s).2,
        front ++ e.calls parent slot n s) :=
  eq_of_alike (e.simulates_recording.walk n parent slot ⟨rfl, rfl⟩)
    ((e.simulates_recording_prepended front).walk n parent slot ⟨rfl, prepended_nil front s.2⟩)

theorem recording_walkSingular (id : String) (singular : List (String × Option Node))
    (s : Session × σ) (front : List Call) :
    e.recording.walkSingular id singular (s.1, s.2, front) =
      ((e.walkSingular id singular s).1, (e.walkSingular id singular s).2,
        front ++ e.callsSingular id singular s) :=
  eq_of_alike (e.simulates_recording.walkSingular singular id ⟨rfl, rfl⟩)
    ((e.simulates_recording_prepended front).walkSingular singular id
      ⟨rfl, prepended_nil front s.2⟩)

theorem recording_walkLists (id : String) (lists : List (String × List Node))
    (s : Session × σ) (front : List Call) :
    e.recording.walkLists id lists (s.1, s.2, front) =
      ((e.walkLists id lists s).1, (e.walkLists id lists s).2,
        front ++ e.callsLists id lists s) :=
  eq_of_alike (e.simulates_recording.walkLists lists id ⟨rfl, rfl⟩)
    ((e.simulates_recording_prepended front).walkLists lists id
      ⟨rfl, prepended_nil front s.2⟩)

theorem recording_walkItems (parentId slot : String) (items : List Node)
    (s : Session × σ) (front : List Call) :
    e.recording.walkItems parentId slot items (s.1, s.2, front) =
      ((e.walkItems parentId slot items s).1, (e.walkItems parentId slot items s).2,
        front ++ e.callsItems parentId slot items s) :=
  eq_of_alike (e.simulates_recording.walkItems items parentId slot ⟨rfl, rfl⟩)
    ((e.simulates_recording_prepended front).walkItems items parentId slot
      ⟨rfl, prepended_nil front s.2⟩)

/-- The calls made when a node is reached. -/
def callsArrive (parent : Option String) (slot : String) (n : Node) (session : Session) :
    List Call :=
  .node session.nextNode.1 slot n ::
    parent.toList.map fun parentId => .edge session.nextEdge.1 parentId session.nextNode.1

theorem recording_arrive (parent : Option String) (slot : String) (n : Node) (s : Session × σ) :
    e.recording.arrive parent slot n (s.1, s.2, []) =
      ((e.arrive parent slot n s).1, (e.arrive parent slot n s).2,
        callsArrive parent slot n s.1) := by
  cases parent <;> rfl

/-- The calls made below a node, up to the one that leaves it. -/
def callsDescend (id slot : String) (n : Node) (s : Session × σ) : List Call :=
  e.callsSingular id n.singular s ++ e.callsLists id n.lists (e.walkSingular id n.singular s) ++
    [.leaveNode id slot n]

theorem calls_eq (parent : Option String) (slot : String) (n : Node) (s : Session × σ) :
    e.calls parent slot n s =
      callsArrive parent slot n s.1 ++
        e.callsDescend s.1.nextNode.1 slot n (e.arrive parent slot n s) := by
  rw [calls, walk_eq_descend, recording_arrive, descend, recording_walkSingular,
    recording_walkLists, callsDescend, ← List.append_assoc, ← List.append_assoc]
  rfl

theorem callsSingular_some (id slot : String) (n : Node) (rest : List (String × Option Node))
    (s : Session × σ) :
    e.callsSingular id ((slot, some n) :: rest) s =
      e.calls (some id) slot n s ++ e.callsSingular id rest (e.walk (some id) slot n s) := by
  rw [callsSingular, walkSingular, recording_walk, recording_walkSingular]
  rfl

theorem callsLists_cons (id slot : String) {items : List Node} (filled : items.isEmpty = false)
    (rest : List (String × List Node)) (s : Session × σ) :
    e.callsLists id ((slot, items) :: rest) s =
      .enterList id slot items.length s.1 (e.enterList id slot items.length s.1 s.2).1 ::
        e.callsItems ((e.enterList id slot items.length s.1 s.2).1.getD id)
          (Text.singularize slot) items (e.enterList id slot items.length s.1 s.2).2 ++
        .leaveList slot :: e.callsLists id rest (e.visitList id slot items s) := by
  have visited : e.recording.visitList id slot items (s.1, s.2, []) =
      ((e.visitList id slot items s).1, (e.visitList id slot items s).2,
        .enterList id slot items.length s.1 (e.enterList id slot items.length s.1 s.2).1 ::
          e.callsItems ((e.enterList id slot items.length s.1 s.2).1.getD id)
            (Text.singularize slot) items (e.enterList id slot items.length s.1 s.2).2 ++
          [.leaveList slot]) := by
    rw [visitList]
    have inner := e.recording_walkItems ((e.enterList id slot items.length s.1 s.2).1.getD id)
      (Text.singularize slot) items (e.enterList id slot items.length s.1 s.2).2
      [.enterList id slot items.length s.1 (e.enterList id slot items.length s.1 s.2).1]
    exact congrArg (fun r => (r.1, e.recording.leaveList slot r.2)) inner
  rw [callsLists, walkLists_cons, if_neg (by simp [filled]), visited, recording_walkLists,
    List.append_assoc]
  rfl

theorem callsItems_cons (parentId slot : String) (n : Node) (rest : List Node)
    (s : Session × σ) :
    e.callsItems parentId slot (n :: rest) s =
      e.calls (some parentId) slot n s ++
        e.callsItems parentId slot rest (e.walk (some parentId) slot n s) := by
  rw [callsItems, walkItems, recording_walk, recording_walkItems]
  rfl

/-- Makes a call. -/
def perform (state : σ) : Call → σ
  | .node id slot n => e.node id slot n state
  | .edge edgeId parentId childId => e.edge edgeId parentId childId state
  | .enterList parentId slot length session _ =>
      (e.enterList parentId slot length session state).2.2
  | .leaveList slot => e.leaveList slot state
  | .leaveNode id slot n => e.leaveNode id slot n state

/-- The calls of a walk, made again one after the other, lead to the same state. -/
theorem walk_eq_foldl_calls (parent : Option String) (slot : String) (n : Node)
    (s : Session × σ) :
    (e.walk parent slot n s).2 = (e.calls parent slot n s).foldl e.perform s.2 := by
  have last (calls : List Call) (call : Call) (start : σ) :
      (calls ++ [call]).foldl e.perform start = e.perform (calls.foldl e.perform start) call := by
    rw [List.foldl_append, List.foldl_cons, List.foldl_nil]
  have simulates : Simulates e.recording e fun r state =>
      r.1 = state ∧ r.2.foldl e.perform s.2 = state := by
    constructor
    case node | edge | leaveNode =>
      rintro _ _ _ r _ ⟨rfl, replayed⟩
      exact ⟨rfl, (last _ _ _).trans (congrArg (e.perform · _) replayed)⟩
    case leaveList =>
      rintro _ r _ ⟨rfl, replayed⟩
      exact ⟨rfl, (last _ _ _).trans (congrArg (e.perform · _) replayed)⟩
    case enterList =>
      rintro _ _ _ ⟨session, r⟩ ⟨_, _⟩ ⟨rfl, rfl, replayed⟩
      exact ⟨rfl, rfl, rfl, (last _ _ _).trans (congrArg (e.perform · _) replayed)⟩
  have recorded := simulates.walk n parent slot
    (show Alike _ (s.1, s.2, []) s from ⟨rfl, rfl, rfl⟩)
  exact recorded.2.2.symm

/-- The calls of a whole export. -/
def recorded (start : σ) (root : Node) : List Call :=
  e.calls none "root" root (Session.fresh, start)

theorem run_eq_finish (start : σ) (root : Node) :
    e.run start root = e.finish ((e.recorded start root).foldl e.perform start) :=
  congrArg e.finish (e.walk_eq_foldl_calls none "root" root (Session.fresh, start))

/-- What holds of every call that a step can make holds of all calls of a walk. -/
theorem forall_mem_calls {P : Call → Prop} (node : ∀ id slot n, P (.node id slot n))
    (edge : ∀ edgeId parentId childId, P (.edge edgeId parentId childId))
    (enterList : ∀ parentId slot length session state, P (.enterList parentId slot length session
      (e.enterList parentId slot length session state).1))
    (leaveList : ∀ slot, P (.leaveList slot)) (leaveNode : ∀ id slot n, P (.leaveNode id slot n))
    (parent : Option String) (slot : String) (n : Node) (s : Session × σ) :
    ∀ call ∈ e.calls parent slot n s, P call := by
  have last {calls : List Call} {call : Call} (before : ∀ c ∈ calls, P c) (now : P call) :
      ∀ c ∈ calls ++ [call], P c := by
    rw [List.forall_mem_append, List.forall_mem_singleton]
    exact ⟨before, now⟩
  have simulates : Simulates e.recording e fun r state =>
      r.1 = state ∧ ∀ call ∈ r.2, P call := by
    constructor
    case node =>
      rintro _ _ _ r _ ⟨rfl, before⟩
      exact ⟨rfl, last before (node _ _ _)⟩
    case edge =>
      rintro _ _ _ r _ ⟨rfl, before⟩
      exact ⟨rfl, last before (edge _ _ _)⟩
    case leaveNode =>
      rintro _ _ _ r _ ⟨rfl, before⟩
      exact ⟨rfl, last before (leaveNode _ _ _)⟩
    case leaveList =>
      rintro _ r _ ⟨rfl, before⟩
      exact ⟨rfl, last before (leaveList _)⟩
    case enterList =>
      rintro _ _ _ ⟨session, r⟩ ⟨_, _⟩ ⟨rfl, rfl, before⟩
      exact ⟨rfl, rfl, rfl, last before (enterList _ _ _ _ _)⟩
  have recorded := simulates.walk n parent slot
    (show Alike _ (s.1, s.2, []) s from ⟨rfl, rfl, fun _ absent => nomatch absent⟩)
  exact recorded.2.2

end Calls

end SyntaxExport.Encoder
