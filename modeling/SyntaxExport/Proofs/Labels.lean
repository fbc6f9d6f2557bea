import SyntaxExport.Proofs.Drawing
import SyntaxExport.Proofs.Schema
import SyntaxExport.Proofs.SlotNames
import SyntaxExport.Proofs.Tags

/-!
# Labels of the drawing

The label of a node stands between angle brackets and is markup itself, so a reader of the document
takes it to end at the bracket that closes it, counting those that are opened on the way. Values and
types are escaped, names are not. Where no name has a bracket, the label ends where it was meant to,
and its table can be read: a row for each attribute, with a cell for each line of the value.

Results:
1. `closing_append`: text whose brackets match is read over.
2. `ofString_markup`: tags without brackets of their own are found again, with their texts.
3. `text_node_eq`, `rows_labelParts`: a label is such markup, and how its rows are read.
4. `labels_closed`: where the labels of a document end, and what their rows say.
-/

namespace SyntaxExport

open Session

/-! ## Closing brackets -/

/-- Reads up to the bracket that closes what was open before, where `depth` more were opened since,
into what is before that bracket and what is after it. -/
def closing : (depth : Nat) → List Char → Option (List Char × List Char)
  | _, [] => none
  | depth, '<' :: rest => (closing (depth + 1) rest).map fun found => ('<' :: found.1, found.2)
  | 0, '>' :: rest => some ([], rest)
  | depth + 1, '>' :: rest => (closing depth rest).map fun found => ('>' :: found.1, found.2)
  | depth, c :: rest => (closing depth rest).map fun found => (c :: found.1, found.2)

/-- Every bracket of the text has its counterpart in it. -/
inductive Balanced : List Char → Prop where
  | nil : Balanced []
  | char {c : Char} {rest : List Char} :
      c ≠ '<' → c ≠ '>' → Balanced rest → Balanced (c :: rest)
  | nest {body rest : List Char} :
      Balanced body → Balanced rest → Balanced ('<' :: (body ++ '>' :: rest))

theorem Balanced.append {front back : List Char} (first : Balanced front)
    (second : Balanced back) : Balanced (front ++ back) := by
  induction first with
  | nil => exact second
  | char noOpen noClose _ ih => exact .char noOpen noClose ih
  | nest body _ _ ih =>
    rw [List.cons_append, List.append_assoc, List.cons_append]
    exact .nest body ih

theorem closing_char {c : Char} (noOpen : c ≠ '<') (noClose : c ≠ '>') (depth : Nat)
    (rest : List Char) :
    closing depth (c :: rest) = (closing depth rest).map fun found => (c :: found.1, found.2) := by
  rw [closing]
  · exact noOpen
  · exact fun _ => noClose
  · exact fun _ _ => noClose

/-- Balanced text is read over, at any depth. -/
theorem closing_append {text : List Char} (balanced : Balanced text) (depth : Nat)
    (rest : List Char) : closing depth (text ++ rest) =
      (closing depth rest).map fun found => (text ++ found.1, found.2) := by
  induction balanced generalizing depth rest with
  | nil => exact (Option.map_id_apply ..).symm
  | char noOpen noClose _ ih =>
    rw [List.cons_append, closing_char noOpen noClose, ih, Option.map_map]
    rfl
  | nest _ _ ihBody ihRest =>
    rw [List.cons_append, List.append_assoc, List.cons_append, closing, ihBody, closing, ihRest,
      Option.map_map, Option.map_map, Option.map_map]
    simp only [Function.comp_def, List.cons_append, List.append_assoc]

/-! ## Texts without brackets -/

/-- The text has no angle bracket. -/
def Unbracketed (s : String) : Prop :=
  '<' ∉ s.toList ∧ '>' ∉ s.toList

instance : DecidablePred Unbracketed :=
  fun _ => inferInstanceAs (Decidable (_ ∧ _))

theorem Unbracketed.append {s t : String} (first : Unbracketed s) (second : Unbracketed t) :
    Unbracketed (s ++ t) := by
  unfold Unbracketed
  rw [String.toList_append, List.mem_append, List.mem_append, not_or, not_or]
  exact ⟨⟨first.1, second.1⟩, first.2, second.2⟩

theorem Unbracketed.balanced {s : String} (plain : Unbracketed s) : Balanced s.toList := by
  obtain ⟨noOpen, noClose⟩ := plain
  generalize s.toList = text at noOpen noClose ⊢
  induction text with
  | nil => exact .nil
  | cons c rest ih =>
    rw [List.mem_cons, not_or] at noOpen noClose
    exact .char (Ne.symm noOpen.1) (Ne.symm noClose.1) (ih noOpen.2 noClose.2)

theorem unbracketed_escapeEntities (s : String) : Unbracketed (Text.escapeEntities s) := by
  have each (c : Char) : '<' ∉ Text.entityChar c ∧ '>' ∉ Text.entityChar c := by
    unfold Text.entityChar
    split
    · decide
    · decide
    · decide
    · decide
    · decide
    · next noOpen noClose _ _ _ =>
      rw [List.mem_singleton, List.mem_singleton]
      exact ⟨Ne.symm noOpen, Ne.symm noClose⟩
  unfold Unbracketed Text.escapeEntities Text.replaceEach
  rw [String.toList_ofList, List.mem_flatMap, List.mem_flatMap]
  exact ⟨fun ⟨c, _, present⟩ => (each c).1 present, fun ⟨c, _, present⟩ => (each c).2 present⟩

theorem unbracketed_toString (k : Nat) : Unbracketed (toString k) := by
  unfold Unbracketed
  rw [Decimal.toList_toString]
  have digits := Decimal.isDigit_of_mem_toDigits k
  exact ⟨fun present => absurd (digits _ present) (by decide),
    fun present => absurd (digits _ present) (by decide)⟩

theorem unbracketed_bracketed (c : Coordinates) : Unbracketed c.bracketed := by
  have opened : Unbracketed "[" := by decide
  have colon : Unbracketed ":" := by decide
  have dash : Unbracketed "-" := by decide
  have closed : Unbracketed "]" := by decide
  have start := (opened.append (unbracketed_toString c.startLine)).append colon
  have first := (start.append (unbracketed_toString c.startColumn)).append dash
  have last := (first.append (unbracketed_toString c.endLine)).append colon
  exact (last.append (unbracketed_toString c.endColumn)).append closed

theorem unbracketed_escapeLabel {slot : String} (plain : Unbracketed slot) :
    Unbracketed (Text.escapeLabel slot) := by
  have kept {c d : Char} (other : d ≠ '\\' ∧ d ≠ '"') (present : d ∈ Text.labelChar c) : d = c := by
    unfold Text.labelChar at present
    split at present
    · simp [other] at present
    · exact List.mem_singleton.mp present
  unfold Unbracketed Text.escapeLabel Text.replaceEach
  rw [String.toList_ofList, List.mem_flatMap, List.mem_flatMap]
  constructor
  · rintro ⟨c, inside, present⟩
    cases kept (by decide) present
    exact plain.1 inside
  · rintro ⟨c, inside, present⟩
    cases kept (by decide) present
    exact plain.2 inside

/-! ## Tags with the texts after them -/

/-- Markup made of tags, each given by what stands between its brackets, with a text after it. -/
def markup (parts : List (String × String)) : String :=
  Atom.writtenAll (parts.flatMap fun p => [.tag p.1, .text p.2])

/-- The tags of markup, as they are read. -/
def tagsOf (parts : List (String × String)) : List Tagged :=
  parts.map fun p => ⟨bracket p.1, p.2⟩

/-- No bracket stands in a tag or in a text. -/
def Bare (parts : List (String × String)) : Prop :=
  ∀ p ∈ parts, Unbracketed p.1 ∧ Unbracketed p.2

instance : DecidablePred Bare :=
  fun _ => inferInstanceAs (Decidable (∀ _ ∈ _, _))

theorem markup_nil : markup [] = "" := rfl

theorem markup_append (front back : List (String × String)) :
    markup (front ++ back) = markup front ++ markup back := by
  rw [markup, List.flatMap_append, Atom.writtenAll_append]
  rfl

theorem markup_flatMap {α : Type} (f : α → List (String × String)) (l : List α) :
    markup (l.flatMap f) = String.join (l.map fun x => markup (f x)) := by
  rw [markup, List.flatMap_assoc, Atom.writtenAll_flatMap]
  rfl

theorem markup_cons (body text : String) (rest : List (String × String)) :
    markup ((body, text) :: rest) = bracket body ++ (text ++ markup rest) := by
  rw [markup, List.flatMap_cons, List.cons_append, List.singleton_append, Atom.writtenAll_cons,
    Atom.writtenAll_cons]
  rfl

theorem tagsOf_append (front back : List (String × String)) :
    tagsOf (front ++ back) = tagsOf front ++ tagsOf back :=
  List.map_append

theorem forall_mem_tagsOf (P : String → Prop) {parts : List (String × String)}
    (bodies : ∀ body ∈ parts.map Prod.fst, P (bracket body)) : ∀ t ∈ tagsOf parts, P t.tag := by
  rw [tagsOf, List.forall_mem_map]
  exact fun p present => bodies p.1 (List.mem_map_of_mem present)

theorem balanced_markup {parts : List (String × String)} (bare : Bare parts) :
    Balanced (markup parts).toList := by
  induction parts with
  | nil => exact .nil
  | cons p rest ih =>
    obtain ⟨plain, later⟩ := List.forall_mem_cons.mp bare
    have inner := plain.2.balanced.append (ih later)
    have nested := Balanced.nest plain.1.balanced inner
    rw [← String.toList_append] at nested
    rw [markup_cons, bracket, String.append_assoc, String.append_assoc, String.toList_append,
      String.toList_append, String.toList_append]
    exact nested

/-- A reader finds the tags again, each with its text. -/
theorem ofString_markup {parts : List (String × String)} (bare : Bare parts) :
    Split.ofString (markup parts) = ⟨"", tagsOf parts⟩ := by
  have plain : ∀ a ∈ parts.flatMap fun p => [Atom.tag p.1, .text p.2], a.Plain := by
    rw [List.forall_mem_flatMap]
    intro p present
    obtain ⟨inTag, inText⟩ := bare p present
    exact List.forall_mem_cons.mpr ⟨inTag.2, List.forall_mem_singleton.mpr inText.1⟩
  have read := Atom.outside_written plain []
  rw [List.append_nil] at read
  refine read.trans ?_
  clear read plain bare
  induction parts with
  | nil => rfl
  | cons p rest ih =>
    -- a tag or nothing follows the text, so the reader adds nothing to it
    rw [List.flatMap_cons, List.foldr_append, ih]
    show Split.mk "" (⟨bracket p.1, p.2 ++ ""⟩ :: _) = _
    rw [String.append_empty]
    rfl

namespace Tagged

/-- The cells of the first table, each with its tag and the text that it stands for. -/
def cells (tagged : List Tagged) : List (String × List Char) :=
  (((tagged.dropWhile fun t => element t.tag ≠ "table").takeWhile fun t =>
    t.tag ≠ "</table>").filter fun t => element t.tag = "td").map fun t =>
      (t.tag, Text.decodeEntities t.text.toList)

/-- The rows of attributes: a cell of its own holds the name, and the table after it the value. -/
def rows : List Tagged → List (String × List (String × List Char))
  | [] => []
  | t :: rest => if t.tag = "<td>" then (t.text, cells rest) :: rows rest else rows rest

theorem cells_table {before inside after : List Tagged} {table stop : Tagged}
    (early : ∀ t ∈ before, element t.tag ≠ "table") (opens : element table.tag = "table")
    (within : ∀ t ∈ inside, t.tag ≠ "</table>") (closes : stop.tag = "</table>") :
    cells (before ++ table :: (inside ++ stop :: after)) =
      (inside.filter fun t => element t.tag = "td").map fun t =>
        (t.tag, Text.decodeEntities t.text.toList) := by
  have skipped : ∀ t ∈ before, decide (element t.tag ≠ "table") = true := fun t present =>
    decide_eq_true (early t present)
  have starts : decide (table.tag ≠ "</table>") = true := by
    refine decide_eq_true fun same => ?_
    rw [same] at opens
    exact absurd opens (by decide)
  have kept : ∀ t ∈ table :: inside, decide (t.tag ≠ "</table>") = true :=
    List.forall_mem_cons.mpr ⟨starts, fun t present => decide_eq_true (within t present)⟩
  rw [cells, List.dropWhile_append_of_pos skipped, List.dropWhile_cons_of_neg (by simp [opens]),
    ← List.cons_append, List.takeWhile_append_of_pos kept,
    List.takeWhile_cons_of_neg (by simp [closes]), List.append_nil,
    List.filter_cons_of_neg (by simp [opens])]

theorem rows_append {front : List Tagged} (others : ∀ t ∈ front, t.tag ≠ "<td>")
    (rest : List Tagged) : rows (front ++ rest) = rows rest := by
  induction front with
  | nil => rfl
  | cons t front ih =>
    rw [List.forall_mem_cons] at others
    rw [List.cons_append, rows, if_neg others.1, ih others.2]

end Tagged

namespace Encoder.Dot

/-! ## The label of a node -/

/-- A line of a value. -/
def lineParts (align : String) (line : List Char) : List (String × String) :=
  [("tr", ""), ("td align='" ++ align ++ "'", Text.escapeEntities (String.ofList line)),
    ("/td", ""), ("/tr", "")]

/-- The row of an attribute. -/
def rowParts (a : String × String) : List (String × String) :=
  [("tr", ""), ("td", a.1), ("/td", ""), ("td align='left'", ""),
    ("table border='0' cellspacing='0' cellpadding='0'", "")] ++
    ((pieces a.2).flatMap (lineParts (alignment a.2)) ++
      [("/table", ""), ("/td", ""), ("/tr", "")])

/-- The line with the type of an expression. -/
def typeParts : Option String → List (String × String)
  | some type =>
      [("br/", ""),
        ("font color='red' size='8'", "Resolved Type: " ++ Text.escapeEntities type), ("/font", "")]
  | none => []

/-- What stands above the rows. -/
def headParts (includeTypeName : Bool) (slot : String) (n : Node) (resolved : Option String) :
    List (String × String) :=
  [("font color='" ++ paint slot n ++ "'", ""),
    ("table border='0' color='" ++ paint slot n ++ "' cellspacing='0' cellborder='1'", ""),
    ("tr", ""), ("td colspan='2'", ""),
    ("font color='" ++ paint slot n ++ "'",
      Text.escapeLabel slot ++ if includeTypeName then " (" ++ n.typeName ++ ")" else ""),
    ("/font", ""), ("br/", ""),
    ("font color='#aaaaaa' size='8'", (n.info.coordinates.map Coordinates.bracketed).getD ""),
    ("/font", "")] ++ (typeParts resolved ++ [("/td", ""), ("/tr", "")])

/-- The label of a node. -/
def labelParts (includeTypeName : Bool) (slot : String) (n : Node) (resolved : Option String) :
    List (String × String) :=
  headParts includeTypeName slot n resolved ++
    (n.attributes.flatMap rowParts ++ [("/table", ""), ("/font", "")])

theorem markup_lineParts (align : String) (line : List Char) :
    markup (lineParts align line) = "<tr><td align='" ++ align ++ "'>" ++
      Text.escapeEntities (String.ofList line) ++ "</td></tr>" := by
  have opened : "<tr><td align='" = bracket "tr" ++ "<" ++ "td align='" := by decide +kernel
  have quoted : "'>" = "'" ++ ">" := by decide +kernel
  have closed : "</td></tr>" = bracket "/td" ++ bracket "/tr" := by decide +kernel
  simp only [lineParts, markup_cons, markup_nil, opened, quoted, closed, bracket,
    String.append_assoc, String.empty_append, String.append_empty]

theorem markup_rowParts (a : String × String) : markup (rowParts a) = rowText a.1 a.2 := by
  have opened : "<tr><td>" = bracket "tr" ++ bracket "td" := by decide +kernel
  have between : "</td><td align='left'><table border='0' cellspacing='0' cellpadding='0'>" =
      bracket "/td" ++ bracket "td align='left'" ++
        bracket "table border='0' cellspacing='0' cellpadding='0'" := by decide +kernel
  have closed : "</table></td></tr>" = bracket "/table" ++ bracket "/td" ++ bracket "/tr" := by
    decide +kernel
  have lines : markup ((pieces a.2).flatMap (lineParts (alignment a.2))) =
      String.join ((pieces a.2).map fun line => "<tr><td align='" ++ alignment a.2 ++ "'>" ++
        Text.escapeEntities (String.ofList line) ++ "</td></tr>") := by
    rw [markup_flatMap]
    exact congrArg String.join (List.map_congr_left fun line _ => markup_lineParts _ line)
  unfold rowText
  simp only [rowParts, markup_append, lines, markup_cons, markup_nil, opened, between, closed,
    String.append_assoc, String.empty_append, String.append_empty]

theorem text_node_eq (types : Bool) (resolve : Node → Option String) (id slot : String)
    (n : Node) :
    Statement.text types resolve (.node id slot n) = "\n" ++ id ++ " [shape=none,label=<" ++
      markup (labelParts types slot n (if n.info.isExpression then resolve n else none)) ++
        ">];" := by
  have font : "<font color='" = "<" ++ "font color='" := by decide +kernel
  have quoted : "'>" = "'" ++ ">" := by decide +kernel
  have table : "<table border='0' color='" = "<" ++ "table border='0' color='" := by decide +kernel
  have opened : "' cellspacing='0' cellborder='1'><tr><td colspan='2'>" =
      "' cellspacing='0' cellborder='1'" ++ ">" ++ bracket "tr" ++ bracket "td colspan='2'" := by
    decide +kernel
  have place : "</font><br/><font color='#aaaaaa' size='8'>" =
      bracket "/font" ++ bracket "br/" ++ bracket "font color='#aaaaaa' size='8'" := by
    decide +kernel
  have placed : "</font>" = bracket "/font" := by decide +kernel
  have type : "<br/><font color='red' size='8'>Resolved Type: " =
      bracket "br/" ++ bracket "font color='red' size='8'" ++ "Resolved Type: " := by
    decide +kernel
  have closed : "</td></tr>" = bracket "/td" ++ bracket "/tr" := by decide +kernel
  have last : "</table></font>>];" = bracket "/table" ++ bracket "/font" ++ ">];" := by
    decide +kernel
  have rows : markup (n.attributes.flatMap rowParts) =
      String.join (n.attributes.map fun a => rowText a.1 a.2) := by
    rw [markup_flatMap]
    exact congrArg String.join (List.map_congr_left fun a _ => markup_rowParts a)
  rw [Statement.text, Statement.typeLine]
  cases (if n.info.isExpression then resolve n else none) with
  | none =>
    rw [Option.map_none, Option.getD_none]
    unfold Statement.beforeType Statement.afterType
    simp only [labelParts, headParts, typeParts, markup_append, rows, markup_cons, markup_nil, font,
      quoted, table, opened, place, placed, closed, last, bracket,
      String.append_assoc, String.empty_append, String.append_empty]
  | some type' =>
    rw [Option.map_some, Option.getD_some]
    unfold Statement.beforeType Statement.afterType typeLine
    simp only [labelParts, headParts, typeParts, markup_append, rows, markup_cons, markup_nil, font,
      quoted, table, opened, place, placed, closed, last, type, bracket,
      String.append_assoc, String.empty_append, String.append_empty]

/-! ## No bracket in a label but those of its tags -/

theorem alignment_eq (value : String) : alignment value = "left" ∨ alignment value = "center" := by
  unfold alignment
  split
  · exact .inl rfl
  · exact .inr rfl

theorem bare_rowParts {a : String × String} (plain : Unbracketed a.1) : Bare (rowParts a) := by
  have align : Unbracketed ("td align='" ++ alignment a.2 ++ "'") := by
    rcases alignment_eq a.2 with same | same <;> rw [same] <;> decide
  refine List.forall_mem_append.mpr ⟨?_, List.forall_mem_append.mpr ⟨?_, by decide⟩⟩
  · simp only [List.forall_mem_cons]
    exact ⟨by decide, ⟨by decide, plain⟩, by decide, by decide, by decide, by simp⟩
  · rw [List.forall_mem_flatMap]
    intro line _
    simp only [lineParts, List.forall_mem_cons]
    exact ⟨by decide, ⟨align, unbracketed_escapeEntities _⟩, by decide, by decide, by simp⟩

theorem paint_eq (slot : String) (n : Node) : paint slot n = "LightGray" ∨
    paint slot n = "SteelBlue" ∨ paint slot n = "SeaGreen" ∨ paint slot n = "black" := by
  unfold paint
  split
  · exact .inl rfl
  · split
    · exact .inr (.inl rfl)
    · split
      · exact .inr (.inr (.inl rfl))
      · exact .inr (.inr (.inr rfl))

theorem bare_headParts (types : Bool) {slot : String} {n : Node} (resolved : Option String)
    (plainSlot : Unbracketed slot) (plainType : Unbracketed n.typeName) :
    Bare (headParts types slot n resolved) := by
  have known := paint_eq slot n
  have font : Unbracketed ("font color='" ++ paint slot n ++ "'") := by
    rcases known with same | same | same | same <;> rw [same] <;> decide
  have table : Unbracketed
      ("table border='0' color='" ++ paint slot n ++ "' cellspacing='0' cellborder='1'") := by
    rcases known with same | same | same | same <;> rw [same] <;> decide
  have typeName : Unbracketed (if types then " (" ++ n.typeName ++ ")" else "") := by
    have opened : Unbracketed " (" := by decide
    have closed : Unbracketed ")" := by decide
    split
    · exact (opened.append plainType).append closed
    · decide
  have header := (unbracketed_escapeLabel plainSlot).append typeName
  have place : Unbracketed ((n.info.coordinates.map Coordinates.bracketed).getD "") := by
    cases n.info.coordinates with
    | none => decide
    | some c => exact unbracketed_bracketed c
  have typed : Bare (typeParts resolved) := by
    cases resolved with
    | none => nofun
    | some type =>
      have words : Unbracketed "Resolved Type: " := by decide
      simp only [Bare, typeParts, List.forall_mem_cons]
      exact ⟨by decide, ⟨by decide, words.append (unbracketed_escapeEntities type)⟩, by decide,
        by simp⟩
  refine List.forall_mem_append.mpr ⟨?_, List.forall_mem_append.mpr ⟨typed, by decide⟩⟩
  simp only [List.forall_mem_cons]
  exact ⟨⟨font, by decide⟩, ⟨table, by decide⟩, by decide, by decide, ⟨font, header⟩, by decide,
    by decide, ⟨by decide, place⟩, by decide, by simp⟩

theorem bare_labelParts (types : Bool) {slot : String} {n : Node} (resolved : Option String)
    (plainSlot : Unbracketed slot) (plainType : Unbracketed n.typeName)
    (plainNames : ∀ a ∈ n.attributes, Unbracketed a.1) :
    Bare (labelParts types slot n resolved) := by
  have rows : Bare (n.attributes.flatMap rowParts) :=
    List.forall_mem_flatMap.mpr fun a present => bare_rowParts (plainNames a present)
  exact List.forall_mem_append.mpr ⟨bare_headParts types resolved plainSlot plainType,
    List.forall_mem_append.mpr ⟨rows, by decide⟩⟩

/-! ## The rows of a label -/

theorem filter_lineParts {align : String} (known : align = "left" ∨ align = "center")
    (lines : List (List Char)) :
    (tagsOf (lines.flatMap (lineParts align))).filter (fun t => Tagged.element t.tag = "td") =
      lines.map fun line =>
        ⟨bracket ("td align='" ++ align ++ "'"), Text.escapeEntities (String.ofList line)⟩ := by
  have isCell : Tagged.element (bracket ("td align='" ++ align ++ "'")) = "td" := by
    rcases known with rfl | rfl <;> decide
  have isRow : Tagged.element (bracket "tr") ≠ "td" := by decide
  have cellEnd : Tagged.element (bracket "/td") ≠ "td" := by decide
  have rowEnd : Tagged.element (bracket "/tr") ≠ "td" := by decide
  induction lines with
  | nil => rfl
  | cons line rest ih =>
    rw [List.flatMap_cons, tagsOf_append, List.filter_append, ih]
    simp only [tagsOf, lineParts, List.map_cons, List.map_nil, List.filter_cons, List.filter_nil,
      isCell, isRow, cellEnd, rowEnd, decide_true, decide_false, if_true]
    rfl

theorem tag_lineParts {align : String} (known : align = "left" ∨ align = "center")
    (lines : List (List Char)) :
    ∀ t ∈ tagsOf (lines.flatMap (lineParts align)), t.tag ≠ "</table>" ∧ t.tag ≠ "<td>" := by
  have bodies : ∀ body ∈ ["tr", "td align='" ++ align ++ "'", "/td", "/tr"],
      bracket body ≠ "</table>" ∧ bracket body ≠ "<td>" := by
    rcases known with rfl | rfl <;> decide
  refine forall_mem_tagsOf (fun tag => tag ≠ "</table>" ∧ tag ≠ "<td>") ?_
  rw [List.map_flatMap, List.forall_mem_flatMap]
  exact fun _ _ => bodies

/-- The row of an attribute is read as its name and the lines of its value. -/
theorem rows_rowParts (a : String × String) (rest : List Tagged) :
    Tagged.rows (tagsOf (rowParts a) ++ rest) =
      (a.1, (pieces a.2).map fun line =>
        (bracket ("td align='" ++ alignment a.2 ++ "'"), line)) :: Tagged.rows rest := by
  have known := alignment_eq a.2
  obtain ⟨lines, isLines⟩ : ∃ lines,
    tagsOf ((pieces a.2).flatMap (lineParts (alignment a.2))) = lines := ⟨_, rfl⟩
  have lineTags : ∀ t ∈ lines, t.tag ≠ "</table>" ∧ t.tag ≠ "<td>" :=
    isLines ▸ tag_lineParts known (pieces a.2)
  have shape : tagsOf (rowParts a) ++ rest = ⟨bracket "tr", ""⟩ :: ⟨bracket "td", a.1⟩ ::
      ([⟨bracket "/td", ""⟩, ⟨bracket "td align='left'", ""⟩] ++
        ⟨bracket "table border='0' cellspacing='0' cellpadding='0'", ""⟩ :: (lines ++
          ⟨bracket "/table", ""⟩ :: ⟨bracket "/td", ""⟩ :: ⟨bracket "/tr", ""⟩ :: rest)) := by
    rw [← isLines, rowParts, tagsOf_append, tagsOf_append, List.append_assoc, List.append_assoc]
    rfl
  have named : bracket "td" = "<td>" := by decide
  -- the second tag holds the name: the cells come from what is after it, and so does the next row
  rw [shape, Tagged.rows, if_neg (by decide), Tagged.rows, if_pos named]
  refine congrArg₂ (fun held later => (a.1, held) :: later) ?_ ?_
  · rw [Tagged.cells_table (by decide) (by decide) (fun t present => (lineTags t present).1)
      (by decide), ← isLines, filter_lineParts known, List.map_map]
    refine List.map_congr_left fun line _ => ?_
    show (_, Text.decodeEntities (Text.escapeEntities (String.ofList line)).toList) = _
    rw [Text.decodeEntities_escapeEntities, String.toList_ofList]
  · rw [Tagged.rows_append (by decide), Tagged.rows, if_neg (by decide),
      Tagged.rows_append fun t present => (lineTags t present).2, Tagged.rows, if_neg (by decide),
      Tagged.rows, if_neg (by decide), Tagged.rows, if_neg (by decide)]

theorem tag_headParts (types : Bool) (slot : String) (n : Node) (resolved : Option String) :
    ∀ t ∈ tagsOf (headParts types slot n resolved), t.tag ≠ "<td>" := by
  refine forall_mem_tagsOf (· ≠ "<td>") ?_
  cases resolved <;> simp only [headParts, typeParts, List.map_append, List.map_cons, List.map_nil]
  all_goals rcases paint_eq slot n with same | same | same | same <;> rw [same] <;> decide

/-- The rows of a label are the attributes, each with the lines of its value. -/
theorem rows_labelParts (types : Bool) (slot : String) (n : Node) (resolved : Option String) :
    Tagged.rows (tagsOf (labelParts types slot n resolved)) = n.attributes.map fun a =>
      (a.1, (pieces a.2).map fun line =>
        (bracket ("td align='" ++ alignment a.2 ++ "'"), line)) := by
  have last : Tagged.rows (tagsOf [("/table", ""), ("/font", "")]) = [] := by decide
  have rows (attributes : List (String × String)) :
      Tagged.rows (tagsOf (attributes.flatMap rowParts ++ [("/table", ""), ("/font", "")])) =
        attributes.map fun a => (a.1, (pieces a.2).map fun line =>
          (bracket ("td align='" ++ alignment a.2 ++ "'"), line)) := by
    induction attributes with
    | nil => exact last
    | cons a rest ih =>
      rw [List.flatMap_cons, List.append_assoc, tagsOf_append, rows_rowParts, ih, List.map_cons]
  rw [labelParts, tagsOf_append, Tagged.rows_append (tag_headParts types slot n resolved), rows]

/-- The cells of a value, as they are to be read. -/
def valueCells (value : String) : List (String × List Char) :=
  let pieces := Text.separated (Text.trimChars value.toList)
  pieces.map fun piece =>
    (if 1 < pieces.length then "<td align='left'>" else "<td align='center'>", piece)

theorem map_pieces (value : String) :
    (pieces value).map (fun line => (bracket ("td align='" ++ alignment value ++ "'"), line)) =
      valueCells value := by
  have tag : bracket ("td align='" ++ alignment value ++ "'") =
      if 1 < (pieces value).length then "<td align='left'>" else "<td align='center'>" := by
    unfold alignment
    split <;> decide
  rw [tag]
  rfl

/-! ## The slots of a drawing -/

/-- The name under which a node is drawn. -/
def Statement.slot? : Statement → Option String
  | .node _ slot _ => some slot
  | _ => none

/-- The name under which a node is reached. -/
def reached? : Call → Option String
  | .node _ slot _ => some slot
  | _ => none

theorem slot_mem_of_drawn {root : Node} {id slot : String} {n : Node}
    (drawn : .node id slot n ∈ draw none "root" 0 root) : slot = "root" ∨ slot ∈ root.slots := by
  have told : slot ∈ (draw none "root" 0 root).filterMap Statement.slot? :=
    List.mem_filterMap.mpr ⟨_, drawn, rfl⟩
  rw [← statements_recorded false fun _ => none, filterMap_statements (g := reached?)
    (fun _ _ _ => rfl) (fun _ _ _ _ => rfl) (fun _ _ _ _ => rfl) (fun _ => rfl)
    (fun _ _ _ => rfl) _ (named_recorded_dot false (fun _ => none) root)] at told
  obtain ⟨call, present, isSlot⟩ := List.mem_filterMap.mp told
  cases call with
  | node => exact slot_mem_of_recorded _ present isSlot
  | edge | enterList | leaveList | leaveNode => cases isSlot

/-! ## Whole documents -/

/-- No bracket stands in a name. -/
def PlainNames (n : Node) : Prop :=
  ∀ name ∈ n.typeName :: n.keys, Unbracketed name

instance : DecidablePred PlainNames :=
  fun _ => inferInstanceAs (Decidable (∀ _ ∈ _, _))

theorem unbracketed_slots {root : Node} (plain : ∀ n ∈ root.preorder, PlainNames n) :
    ∀ name ∈ root.slots, Unbracketed name := by
  unfold Node.slots
  rw [List.forall_mem_flatMap]
  intro n inside name present
  obtain ⟨key, isKey, beginning⟩ := Node.exists_key_of_mem_slotNames present
  obtain ⟨noOpen, noClose⟩ := plain n inside key (List.mem_cons_of_mem _ isKey)
  exact ⟨fun kept => noOpen (beginning.subset kept), fun kept => noClose (beginning.subset kept)⟩

/-- The label of a node, whatever follows its statement, ends where it was closed, and its rows are
the attributes of the node. -/
theorem label_read (types : Bool) (resolve : Node → Option String) (id : String) {slot : String}
    {n : Node} (plainSlot : Unbracketed slot) (plain : PlainNames n) :
    ∃ label, Statement.text types resolve (.node id slot n) =
        "\n" ++ id ++ " [shape=none,label=<" ++ label ++ ">];" ∧
      (∀ after : String, closing 0 (label ++ ">];" ++ after).toList =
        some (label.toList, ("];" ++ after).toList)) ∧
      Tagged.rows (Split.ofString label).tagged = n.attributes.map fun a =>
        (a.1, valueCells a.2) := by
  have names : ∀ a ∈ n.attributes, Unbracketed a.1 := fun a present =>
    plain a.1 (List.mem_cons_of_mem _ (List.mem_append_left _ (List.mem_map_of_mem present)))
  have bare : Bare (labelParts types slot n (if n.info.isExpression then resolve n else none)) :=
    bare_labelParts types _ plainSlot (plain _ List.mem_cons_self) names
  refine ⟨markup (labelParts types slot n (if n.info.isExpression then resolve n else none)),
    text_node_eq .., ?_, ?_⟩
  · intro after
    -- the label is read over, so the next bracket is the one that closes it
    rw [String.append_assoc, String.toList_append, closing_append (balanced_markup bare)]
    have closed : (">];" ++ after).toList = '>' :: ("];" ++ after).toList := by
      rw [String.toList_append, String.toList_append]
      rfl
    rw [closed, closing, Option.map_some, List.append_nil]
  · rw [ofString_markup bare]
    refine (rows_labelParts ..).trans ?_
    simp only [map_pieces]

/-- Where no name has an angle bracket, the label of every node statement of the document is closed
by the bracket before the end of the statement, whatever the values and the types that were found,
and its rows give every attribute with the pieces of its value. -/
theorem labels_closed (types : Bool) (resolve : Node → Option String) (root : Node)
    (plain : ∀ n ∈ root.preorder, PlainNames n) :
    let document := (dot types resolve).run .start root
    let picture := draw none "root" 0 root
    document = text types resolve picture ∧
      (picture.filterMap Statement.node?).map Prod.snd = root.preorder ∧
      ∀ front id slot n back, picture = front ++ .node id slot n :: back →
        ∃ label after, document =
            "digraph \x7b" ++ String.join (front.map (Statement.text types resolve)) ++
              ("\n" ++ id ++ " [shape=none,label=<" ++ (label ++ ">];" ++ after)) ∧
          closing 0 (label ++ ">];" ++ after).toList = some (label.toList, ("];" ++ after).toList) ∧
          Tagged.rows (Split.ofString label).tagged = n.attributes.map fun a =>
            (a.1, valueCells a.2) := by
  intro document picture
  have drawn : document = text types resolve picture :=
    (run_eq_text types resolve root).trans
      (congrArg (text types resolve) (statements_recorded types resolve root))
  refine ⟨drawn, nodes_draw root, fun front id slot n back split => ?_⟩
  have present : .node id slot n ∈ picture := by
    rw [split]
    exact List.mem_append_right _ List.mem_cons_self
  have inside : n ∈ root.preorder := by
    rw [← nodes_draw root]
    exact List.mem_map.mpr ⟨(id, n), List.mem_filterMap.mpr ⟨_, present, rfl⟩, rfl⟩
  have plainSlot : Unbracketed slot := by
    rcases slot_mem_of_drawn present with rfl | named
    · decide
    · exact unbracketed_slots plain slot named
  obtain ⟨label, written, closed, rows⟩ := label_read types resolve id plainSlot (plain n inside)
  refine ⟨label, String.join (back.map (Statement.text types resolve)) ++ "\n\x7d", ?_, closed _,
    rows⟩
  rw [drawn, split, text, List.map_append, String.join_append, List.map_cons, String.join_cons,
    written]
  simp only [String.append_assoc]

/-- A value and a type that would close the label and end the statement, with an entity spelled out
and both kinds of line ends. -/
theorem labels_closed_hostile :
    let tree : Node := .mk
      { typeName := "Lit", attributes := [("text", " >];\r\n&lt;<b>\nc ")], isExpression := true }
      [] []
    let resolve : Node → Option String := fun _ => some "Vec<u8>>];"
    (∀ n ∈ tree.preorder, PlainNames n) ∧
      ∃ label after, (dot true resolve).run .start tree =
          "digraph \x7b\nn0 [shape=none,label=<" ++ (label ++ ">];" ++ after) ∧
        closing 0 (label ++ ">];" ++ after).toList = some (label.toList, ("];" ++ after).toList) ∧
        Tagged.rows (Split.ofString label).tagged =
          [("text", [("<td align='left'>", ">];".toList), ("<td align='left'>", "&lt;<b>".toList),
            ("<td align='left'>", "c".toList)])] := by
  intro tree resolve
  have nodes : tree.preorder = [tree] := by
    simp [Node.preorder_eq, tree, Node.children, Node.singular, Node.lists]
  have plain : ∀ n ∈ tree.preorder, PlainNames n := by
    rw [nodes]
    decide
  have drawn : draw none "root" 0 tree = [] ++ .node "n0" "root" tree :: [] := by
    rw [draw]
    rfl
  obtain ⟨label, after, written, closed, rows⟩ :=
    (labels_closed true resolve tree plain).2.2 [] "n0" "root" tree [] drawn
  refine ⟨plain, label, after, ?_, closed, ?_⟩
  · have start : "digraph \x7b\nn0 [shape=none,label=<" =
        "digraph \x7b" ++ "" ++ ("\n" ++ "n0" ++ " [shape=none,label=<") := by decide +kernel
    rw [written, start]
    simp only [String.append_assoc]
    rfl
  · rw [rows]
    decide +kernel

end Encoder.Dot

end SyntaxExport
