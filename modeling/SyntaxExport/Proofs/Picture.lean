import SyntaxExport.Encoder.Dot
import SyntaxExport.Proofs.Graph
import SyntaxExport.Proofs.Summary

/-!
# Statements of the graph description

A document of the graph description is a list of statements: a node with its table, the ellipse of a
list, an edge with its colour. `Statement.text` spells them out. What a node's statement says of
types is one line, so the text is given in three parts: what stands before that line, the line, and
what stands after it.

Results:
1. `map_withoutReturn_splitOn`: the lines of a value are the pieces between its line ends.
2. `nodeStatement_eq`, `listStatement_eq`, `edgeStatement_eq`: what is written for a call.
3. `run_eq_text`: the document is the text of its statements.
4. `picture_recorded`: the statements are a graph with the parent relation of the tree.
-/

namespace SyntaxExport

open Session

/-! ## Lines -/

namespace Text

/-- The pieces between the line ends, which are a line feed or a carriage return with a line feed
after it. -/
def separated : List Char → List (List Char)
  | [] => [[]]
  | '\r' :: '\n' :: rest => [] :: separated rest
  | '\n' :: rest => [] :: separated rest
  | c :: rest => (separated rest).modifyHead (c :: ·)

/-- The line without a carriage return at its end. -/
def withoutReturn (line : List Char) : List Char :=
  if line.getLast? = some '\r' then line.dropLast else line

theorem withoutReturn_cons {c : Char} {line : List Char} (kept : line = [] → c ≠ '\r') :
    withoutReturn (c :: line) = c :: withoutReturn line := by
  cases line with
  | nil => exact if_neg fun same => kept rfl (Option.some_inj.mp same)
  | cons d rest =>
    unfold withoutReturn
    rw [List.getLast?_cons_cons]
    split <;> rfl

theorem splitOn_feed (rest : List Char) :
    ('\n' :: rest).splitOn '\n' = [] :: rest.splitOn '\n' := by
  rw [List.splitOn_eq_splitOnP, List.splitOnP_cons_eq_if_modifyHead, if_pos (by decide),
    List.splitOn_eq_splitOnP]

theorem splitOn_other {c : Char} (noFeed : c ≠ '\n') (rest : List Char) :
    (c :: rest).splitOn '\n' = (rest.splitOn '\n').modifyHead (c :: ·) := by
  rw [List.splitOn_eq_splitOnP, List.splitOnP_cons_eq_if_modifyHead, if_neg (by simpa using noFeed),
    List.splitOn_eq_splitOnP]

theorem getLast?_ne_of_cons {c d : Char} {rest : List Char} (ends : (c :: rest).getLast? ≠ some d) :
    rest.getLast? ≠ some d := by
  cases rest with
  | nil => nofun
  | cons => rwa [List.getLast?_cons_cons] at ends

/-- Where the text does not end in a carriage return, none is dropped but at a line end. -/
theorem map_withoutReturn_splitOn {text : List Char} (ends : text.getLast? ≠ some '\r') :
    (text.splitOn '\n').map withoutReturn = separated text := by
  fun_induction separated text with
  | case1 => rfl
  | case2 rest ih =>
    rw [splitOn_other (by decide), splitOn_feed, List.modifyHead_cons, List.map_cons,
      ih (getLast?_ne_of_cons (getLast?_ne_of_cons ends))]
    rfl
  | case3 rest ih =>
    rw [splitOn_feed, List.map_cons, ih (getLast?_ne_of_cons ends)]
    rfl
  | case4 c rest noReturn noFeed ih =>
    obtain ⟨first, others, split⟩ := List.exists_cons_of_ne_nil (List.splitOn_ne_nil '\n' rest)
    -- a first line that is empty ends the text or stands before a line feed
    have kept : first = [] → c ≠ '\r' := by
      rintro rfl rfl
      cases rest with
      | nil => exact ends rfl
      | cons d tail =>
        by_cases isFeed : d = '\n'
        · exact noReturn tail rfl (congrArg (· :: tail) isFeed)
        · rw [splitOn_other isFeed] at split
          obtain ⟨next, more, same⟩ :=
            List.exists_cons_of_ne_nil (List.splitOn_ne_nil '\n' tail)
          rw [same] at split
          cases split
    rw [splitOn_other noFeed, ← ih (getLast?_ne_of_cons ends), split, List.modifyHead_cons,
      List.map_cons, List.map_cons, List.modifyHead_cons, withoutReturn_cons kept]

theorem getLast?_trimChars (cs : List Char) : (trimChars cs).getLast? ≠ some '\r' :=
  fun ends => absurd ((trimmed_trimChars cs).2 '\r' ends) (by decide)

end Text

namespace Encoder.Dot

/-! ## Statements and their texts -/

/-- A statement of the graph description. -/
inductive Statement where
  | node (id slot : String) (n : Node)
  | list (id slot : String)
  | edge (parentId childId color : String)

/-- The colour of a node: that of comments and of names by the slot, then that of text literals. -/
def paint (slot : String) (n : Node) : String :=
  if slot = "comment" then "LightGray"
  else if slot = "name" then "SteelBlue"
  else if n.info.isStringLiteral then "SeaGreen"
  else "black"

/-- The lines of a value without the blanks at its ends. -/
def pieces (value : String) : List (List Char) :=
  Text.separated (Text.trimChars value.toList)

/-- How the lines of a value are aligned: a single one is centred. -/
def alignment (value : String) : String :=
  if 1 < (pieces value).length then "left" else "center"

/-- The row of an attribute, with a table of its own for the lines of the value. -/
def rowText (name value : String) : String :=
  "<tr><td>" ++ name ++
    "</td><td align='left'><table border='0' cellspacing='0' cellpadding='0'>" ++
    String.join ((pieces value).map fun piece => "<tr><td align='" ++ alignment value ++ "'>" ++
      Text.escapeEntities (String.ofList piece) ++ "</td></tr>") ++
    "</table></td></tr>"

/-- The line that shows a type. -/
def typeLine (type : String) : String :=
  "<br/><font color='red' size='8'>Resolved Type: " ++ Text.escapeEntities type ++ "</font>"

namespace Statement

/-- What stands before the line with the type: all of a list or edge. -/
def beforeType (includeTypeName : Bool) : Statement → String
  | node id slot n =>
      let font := "<font color='" ++ paint slot n ++ "'>"
      "\n" ++ id ++ " [shape=none,label=<" ++ font ++ "<table border='0' color='" ++ paint slot n ++
        "' cellspacing='0' cellborder='1'><tr><td colspan='2'>" ++ font ++ Text.escapeLabel slot ++
        (if includeTypeName then " (" ++ n.typeName ++ ")" else "") ++
        "</font><br/><font color='#aaaaaa' size='8'>" ++
        (n.info.coordinates.map Coordinates.bracketed).getD "" ++ "</font>"
  | list id slot =>
      "\n" ++ id ++ " [shape=ellipse,color=OrangeRed,label=\"" ++ Text.escapeLabel slot ++ "\"];"
  | edge parentId childId color =>
      "\n" ++ parentId ++ " -> " ++ childId ++ " [color = " ++ color ++ "];"

/-- The line that shows the type of an expression, if one is known. -/
def typeLine (resolve : Node → Option String) : Statement → String
  | node _ _ n => ((if n.info.isExpression then resolve n else none).map Dot.typeLine).getD ""
  | _ => ""

/-- What stands after the line with the type. -/
def afterType : Statement → String
  | node _ _ n =>
      "</td></tr>" ++ String.join (n.attributes.map fun a => rowText a.1 a.2) ++
        "</table></font>>];"
  | _ => ""

/-- The text of a statement. -/
def text (includeTypeName : Bool) (resolve : Node → Option String) (s : Statement) : String :=
  s.beforeType includeTypeName ++ s.typeLine resolve ++ s.afterType

end Statement

/-- The graph description of statements. -/
def text (includeTypeName : Bool) (resolve : Node → Option String)
    (picture : List Statement) : String :=
  "digraph \x7b" ++ String.join (picture.map (Statement.text includeTypeName resolve)) ++ "\n\x7d"

theorem valueLines_eq (value : String) : valueLines value = pieces value :=
  Text.map_withoutReturn_splitOn (Text.getLast?_trimChars value.toList)

theorem attributeRow_eq (name value : String) : attributeRow name value = rowText name value := by
  unfold attributeRow
  rw [valueLines_eq]
  rfl

theorem label_ofNode (slot : String) (n : Node) : (Color.ofNode slot n).label = paint slot n := by
  unfold Color.ofNode paint
  split
  · rfl
  · split
    · rfl
    · split <;> rfl

section Texts

variable (types : Bool) (resolve : Node → Option String)

theorem nodeStatement_eq (id slot : String) (n : Node) :
    nodeStatement types id slot n (Color.ofNode slot n)
        (if n.info.isExpression then resolve n else none) =
      (Statement.node id slot n).text types resolve := by
  have rows : (n.attributes.map fun a => attributeRow a.1 a.2) =
      n.attributes.map fun a => rowText a.1 a.2 :=
    List.map_congr_left fun a _ => attributeRow_eq a.1 a.2
  rw [Statement.text, Statement.typeLine]
  cases (if n.info.isExpression then resolve n else none) with
  | none =>
    rw [Option.map_none, Option.getD_none]
    unfold nodeStatement Statement.beforeType Statement.afterType
    simp only [label_ofNode, rows, String.append_assoc]
  | some type =>
    rw [Option.map_some, Option.getD_some]
    unfold nodeStatement Statement.beforeType Statement.afterType typeLine
    simp only [label_ofNode, rows, String.append_assoc]

theorem listStatement_eq (id slot : String) :
    listStatement id slot = (Statement.list id slot).text types resolve := by
  unfold listStatement Statement.text Statement.beforeType Statement.typeLine Statement.afterType
  rw [String.append_empty, String.append_empty]
  simp [listColor, ← String.toList_inj]

theorem edgeStatement_eq (parentId childId color : String) :
    edgeStatement parentId childId color =
      (Statement.edge parentId childId color).text types resolve := by
  unfold edgeStatement Statement.text Statement.beforeType Statement.typeLine Statement.afterType
  rw [String.append_empty, String.append_empty]

end Texts

/-! ## The statements of calls -/

/-- The statements written for calls. An edge takes the colour of the node before it. -/
def statements (last : String) : List Call → List Statement
  | [] => []
  | .node id slot n :: rest => .node id slot n :: statements (paint slot n) rest
  | .edge _ parentId childId :: rest => .edge parentId childId last :: statements last rest
  | .enterList parentId slot _ session _ :: rest =>
      .list session.nextNode.1 slot :: .edge parentId session.nextNode.1 "OrangeRed" ::
        statements last rest
  | .leaveList _ :: rest => statements last rest
  | .leaveNode .. :: rest => statements last rest

theorem out_foldl (types : Bool) (resolve : Node → Option String) (calls : List Call)
    (s : State) :
    (calls.foldl (dot types resolve).perform s).out =
      s.out ++
        String.join ((statements s.last.label calls).map (Statement.text types resolve)) := by
  induction calls generalizing s with
  | nil => exact String.append_empty.symm
  | cons call rest ih =>
    cases call with
    | node id slot n =>
      refine Eq.trans (ih (node types resolve id slot n s)) ?_
      rw [statements, List.map_cons, String.join_cons, ← String.append_assoc, ← nodeStatement_eq,
        ← label_ofNode]
      rfl
    | edge edgeId parentId childId =>
      refine Eq.trans (ih { s with out := s.out ++ edgeStatement parentId childId s.last.label }) ?_
      rw [statements, List.map_cons, String.join_cons, ← String.append_assoc, ← edgeStatement_eq]
    | enterList parentId slot length session given =>
      refine Eq.trans (ih (enterList parentId slot length session s).2.2) ?_
      rw [statements, List.map_cons, List.map_cons, String.join_cons, String.join_cons,
        ← String.append_assoc, ← String.append_assoc, ← listStatement_eq, ← edgeStatement_eq]
      rfl
    | leaveList | leaveNode => exact ih s

theorem run_eq_text (types : Bool) (resolve : Node → Option String) (root : Node) :
    (dot types resolve).run .start root =
      text types resolve (statements "black" ((dot types resolve).recorded .start root)) := by
  rw [run_eq_finish]
  exact congrArg (· ++ "\n\x7d") (out_foldl types resolve _ .start)

/-! ## The graph of statements -/

namespace Statement

/-- The node of a statement. -/
def node? : Statement → Option (String × Node)
  | .node id _ n => some (id, n)
  | _ => none

/-- The list of a statement. -/
def list? : Statement → Option String
  | .list id _ => some id
  | _ => none

/-- The edge of a statement. -/
def edge? : Statement → Option (String × String)
  | .edge parentId childId _ => some (childId, parentId)
  | _ => none

/-- The identifier that a statement gives to a node or a list. -/
def name? : Statement → Option String
  | .node id _ _ => some id
  | .list id _ => some id
  | .edge .. => none

end Statement

/-- The graph of statements. -/
def graph (picture : List Statement) : Graph Node :=
  ⟨picture.filterMap Statement.node?, picture.filterMap Statement.list?,
    picture.filterMap Statement.edge?⟩

/-- A list has the identifier that its session hands out next. -/
def Named : Call → Prop
  | .enterList _ _ _ session given => given = some session.nextNode.1
  | _ => True

/-- Two readings, one of statements and one of calls, that agree on what is written for each kind of
call agree on all. -/
theorem filterMap_statements {α : Type} {f : Statement → Option α} {g : Call → Option α}
    (node : ∀ id slot n, f (.node id slot n) = g (.node id slot n))
    (edge : ∀ edgeId parentId childId color,
      f (.edge parentId childId color) = g (.edge edgeId parentId childId))
    (enterList : ∀ parentId slot length session,
      [.list session.nextNode.1 slot, .edge parentId session.nextNode.1 "OrangeRed"].filterMap f =
        [.enterList parentId slot length session (some session.nextNode.1)].filterMap g)
    (leaveList : ∀ id, g (.leaveList id) = none)
    (leaveNode : ∀ id slot n, g (.leaveNode id slot n) = none)
    (last : String) {calls : List Call} (named : ∀ call ∈ calls, Named call) :
    (statements last calls).filterMap f = calls.filterMap g := by
  induction calls generalizing last with
  | nil => rfl
  | cons call rest ih =>
    obtain ⟨here, later⟩ := List.forall_mem_cons.mp named
    cases call with
    | node id slot n =>
      rw [statements, List.filterMap_cons, List.filterMap_cons, node, ih _ later]
    | edge edgeId parentId childId =>
      rw [statements, List.filterMap_cons, List.filterMap_cons, edge edgeId, ih last later]
    | enterList parentId slot length session given =>
      obtain rfl := here
      have first := enterList parentId slot length session
      rw [← List.singleton_append, List.filterMap_append, ← first, ← ih last later,
        ← List.filterMap_append]
      rfl
    | leaveList id => rw [statements, List.filterMap_cons_none (leaveList id), ih last later]
    | leaveNode id slot n =>
      rw [statements, List.filterMap_cons_none (leaveNode id slot n), ih last later]

theorem graph_statements (last : String) {calls : List Call} (named : ∀ call ∈ calls, Named call) :
    graph (statements last calls) = Call.graph calls := by
  have nodes : (statements last calls).filterMap Statement.node? = calls.filterMap Call.named? :=
    filterMap_statements (fun _ _ _ => rfl) (fun _ _ _ _ => rfl) (fun _ _ _ _ => rfl)
      (fun _ => rfl) (fun _ _ _ => rfl) last named
  have lists : (statements last calls).filterMap Statement.list? = calls.filterMap Call.listId? :=
    filterMap_statements (fun _ _ _ => rfl) (fun _ _ _ _ => rfl) (fun _ _ _ _ => rfl)
      (fun _ => rfl) (fun _ _ _ => rfl) last named
  have links : (statements last calls).filterMap Statement.edge? = calls.filterMap Call.link? :=
    filterMap_statements (fun _ _ _ => rfl) (fun _ _ _ _ => rfl) (fun _ _ _ _ => rfl)
      (fun _ => rfl) (fun _ _ _ => rfl) last named
  rw [graph, nodes, lists, links]
  rfl

theorem filterMap_name?_statements (last : String) {calls : List Call}
    (named : ∀ call ∈ calls, Named call) :
    (statements last calls).filterMap Statement.name? = calls.filterMap Call.name? :=
  filterMap_statements (fun _ _ _ => rfl) (fun _ _ _ _ => rfl) (fun _ _ _ _ => rfl)
    (fun _ => rfl) (fun _ _ _ => rfl) last named

theorem length_filterMap_name? (picture : List Statement) :
    (picture.filterMap Statement.name?).length =
      (picture.filterMap Statement.node?).length + (picture.filterMap Statement.list?).length := by
  induction picture with
  | nil => rfl
  | cons statement rest ih =>
    cases statement with
    | node => exact (congrArg (· + 1) ih).trans (Nat.add_right_comm _ _ 1)
    | list => exact congrArg (· + 1) ih
    | edge => exact ih

theorem named_recorded_dot (types : Bool) (resolve : Node → Option String) (root : Node) :
    ∀ call ∈ (dot types resolve).recorded .start root, Named call :=
  (dot types resolve).forall_mem_calls (fun _ _ _ => trivial) (fun _ _ _ => trivial)
    (fun _ _ _ _ _ => rfl) (fun _ => trivial) (fun _ _ _ => trivial) none "root" root
    (Session.fresh, .start)

theorem allocates_dot (types : Bool) (resolve : Node → Option String) :
    (dot types resolve).Allocates true :=
  fun _ _ _ _ _ => ⟨rfl, rfl⟩

/-- The graph description numbers nodes and lists together. -/
theorem picture_recorded (types : Bool) (resolve : Node → Option String) (root : Node) :
    let picture := statements "black" ((dot types resolve).recorded .start root)
    (graph picture).relation = root.parentPairs ∧
      (graph picture).nodes.map Prod.snd = root.preorder ∧
      ∃ count, picture.filterMap Statement.name? = (List.range' 0 count).map nodeName := by
  intro picture
  have visits := visits_calls (allocates_dot types resolve) none "root" root
    (Session.fresh, .start)
  have named := named_recorded_dot types resolve root
  have names : ∀ call ∈ (dot types resolve).recorded .start root,
      call.name? = call.taken? true := by
    intro call _
    cases call <;> rfl
  have drawn : graph picture = Call.graph ((dot types resolve).recorded .start root) :=
    graph_statements "black" named
  rw [drawn]
  refine ⟨relation_graph visits names, ?_, ?_⟩
  · exact (map_snd_named _).trans visits.visited
  · refine ⟨_, Eq.trans ?_ visits.taken⟩
    rw [filterMap_name?_statements "black" named]
    exact List.filterMap_congr names

end Encoder.Dot

end SyntaxExport
