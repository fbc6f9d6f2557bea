import Mathlib.Data.List.TakeWhile
import SyntaxExport.Proofs.Entities
import SyntaxExport.Proofs.GraphMarkup

/-!
# Tags and values

A reader of markup cuts it at tags: a tag goes from `<` to the next `>`, and text stands between
tags. `Split` is what such a reader sees. Where the document is put together from tags and texts
that keep to this, the reader finds them again, so the markup of a document says nothing about the
values of attributes.

Results:
1. `outside_written`: tags and texts that were put together are found again.
2. `written_atoms`: a document is put together from tags and texts.
3. `sections_nodes`: the data elements of nodes, in order.
4. `values_stay_text`: tags do not depend on values, and values are found where they belong.
-/

namespace SyntaxExport

/-! ## Cutting a text at its tags -/

/-- A tag with the text after it. -/
structure Tagged where
  tag : String
  text : String
  deriving DecidableEq, Repr

/-- A text cut at its tags: what is before the first one, and the tags. -/
structure Split where
  lead : String
  tagged : List Tagged
  deriving DecidableEq, Repr

namespace Split

mutual

/-- Cuts a text that starts outside a tag. -/
def outside : List Char → Split
  | [] => ⟨"", []⟩
  | c :: rest =>
      if c = '<' then ⟨"", ⟨"<" ++ (inside rest).1, (inside rest).2.lead⟩ :: (inside rest).2.tagged⟩
      else ⟨String.singleton c ++ (outside rest).lead, (outside rest).tagged⟩

/-- Cuts a text that starts inside a tag, into the rest of the tag and what is after it. -/
def inside : List Char → String × Split
  | [] => ("", ⟨"", []⟩)
  | c :: rest =>
      if c = '>' then (">", outside rest)
      else (String.singleton c ++ (inside rest).1, (inside rest).2)

end

/-- A text cut at its tags. -/
def ofString (s : String) : Split :=
  outside s.toList

/-- The tags alone. -/
def tags (s : Split) : List String :=
  s.tagged.map Tagged.tag

theorem outside_append {text : List Char} (plain : '<' ∉ text) (rest : List Char) :
    outside (text ++ rest) =
      ⟨String.ofList text ++ (outside rest).lead, (outside rest).tagged⟩ := by
  induction text with
  | nil => rw [List.nil_append, String.ofList_nil, String.empty_append]
  | cons c text ih =>
    rw [List.mem_cons, not_or] at plain
    rw [List.cons_append, outside, if_neg (Ne.symm plain.1), ih plain.2, ← List.singleton_append,
      String.ofList_append, String.append_assoc, String.singleton_eq_ofList]

theorem inside_append {body : List Char} (plain : '>' ∉ body) (rest : List Char) :
    inside (body ++ '>' :: rest) = (String.ofList body ++ ">", outside rest) := by
  induction body with
  | nil => rw [List.nil_append, inside, if_pos rfl, String.ofList_nil, String.empty_append]
  | cons c body ih =>
    rw [List.mem_cons, not_or] at plain
    rw [List.cons_append, inside, if_neg (Ne.symm plain.1), ih plain.2, ← List.singleton_append,
      String.ofList_append, String.append_assoc, String.singleton_eq_ofList]

end Split

/-! ## Putting tags and texts together -/

/-- A text in angle brackets. -/
def bracket (body : String) : String :=
  "<" ++ body ++ ">"

/-- A tag, given by what stands between its brackets, or a text. -/
inductive Atom where
  | text (content : String)
  | tag (body : String)

namespace Atom

/-- What is written. -/
def written : Atom → String
  | text content => content
  | tag body => bracket body

/-- Nothing in the atom looks like the end of it. -/
def Plain : Atom → Prop
  | text content => '<' ∉ content.toList
  | tag body => '>' ∉ body.toList

instance : DecidablePred Plain
  | text content => inferInstanceAs (Decidable ('<' ∉ content.toList))
  | tag body => inferInstanceAs (Decidable ('>' ∉ body.toList))

/-- What a reader sees of an atom and of what it saw after it. -/
def onto : Atom → Split → Split
  | text content, s => ⟨content ++ s.lead, s.tagged⟩
  | tag body, s => ⟨"", ⟨bracket body, s.lead⟩ :: s.tagged⟩

/-- The tag, with its brackets. -/
def tag? : Atom → Option String
  | text _ => none
  | tag body => some (bracket body)

/-- All that is written. -/
def writtenAll (atoms : List Atom) : String :=
  String.join (atoms.map written)

theorem writtenAll_cons (a : Atom) (rest : List Atom) :
    writtenAll (a :: rest) = a.written ++ writtenAll rest := by
  rw [writtenAll, List.map_cons, String.join_cons]
  rfl

theorem writtenAll_append (front back : List Atom) :
    writtenAll (front ++ back) = writtenAll front ++ writtenAll back := by
  induction front with
  | nil => exact (String.empty_append).symm
  | cons a rest ih =>
    rw [List.cons_append, writtenAll_cons, writtenAll_cons, ih, String.append_assoc]

theorem writtenAll_flatMap {α : Type} (f : α → List Atom) (l : List α) :
    writtenAll (l.flatMap f) = String.join (l.map fun x => writtenAll (f x)) := by
  induction l with
  | nil => rfl
  | cons x rest ih =>
    rw [List.flatMap_cons, writtenAll_append, ih, List.map_cons, String.join_cons]

/-- A reader finds the atoms again. -/
theorem outside_written {atoms : List Atom} (plain : ∀ a ∈ atoms, a.Plain) (rest : List Char) :
    Split.outside ((writtenAll atoms).toList ++ rest) = atoms.foldr onto (Split.outside rest) := by
  induction atoms with
  | nil => rfl
  | cons a atoms ih =>
    rw [List.forall_mem_cons] at plain
    rw [writtenAll_cons, String.toList_append, List.append_assoc, List.foldr_cons, ← ih plain.2]
    cases a with
    | text content =>
      rw [written, Split.outside_append plain.1, String.ofList_toList]
      rfl
    | tag body =>
      -- the body has no bracket of its own, so the tag ends where it was closed
      have opened : (bracket body).toList = '<' :: (body.toList ++ ['>']) := by
        rw [bracket, String.toList_append, String.toList_append]
        rfl
      rw [written, opened, List.cons_append, List.append_assoc, Split.outside, if_pos rfl,
        List.singleton_append, Split.inside_append plain.1, String.ofList_toList, onto, bracket,
        String.append_assoc]

theorem tags_foldr_onto (atoms : List Atom) (s : Split) :
    (atoms.foldr onto s).tags = atoms.filterMap tag? ++ s.tags := by
  induction atoms with
  | nil => rfl
  | cons a rest ih =>
    cases a with
    | text content => exact ih
    | tag body => exact congrArg (bracket body :: ·) ih

end Atom

/-! ## The data of nodes -/

namespace Tagged

/-- The name of the element that a tag starts; a tag that ends one has a slash before the name. -/
def element (tag : String) : String :=
  String.ofList ((tag.toList.drop 1).takeWhile fun c => c ≠ ' ' ∧ c ≠ '>')

/-- The data elements of each node element, in order. -/
def sections : List Tagged → List (List Tagged)
  | [] => []
  | t :: rest =>
      if element t.tag = "node" then
        (rest.takeWhile fun t => element t.tag ≠ "/node").filter
          (fun t => element t.tag = "data") :: sections rest
      else sections rest

theorem element_bracket {name after : String} (letters : ' ' ∉ name.toList ∧ '>' ∉ name.toList)
    (ends : after = "" ∨ ∃ more, after = " " ++ more) :
    element (bracket (name ++ after)) = name := by
  have all : ∀ c ∈ name.toList, decide (c ≠ ' ' ∧ c ≠ '>') = true := by
    intro c present
    refine decide_eq_true ⟨?_, ?_⟩
    · rintro rfl
      exact letters.1 present
    · rintro rfl
      exact letters.2 present
  have opened : (bracket (name ++ after)).toList.drop 1 =
      name.toList ++ (after.toList ++ ['>']) := by
    rw [bracket, String.toList_append, String.toList_append, String.toList_append,
      List.append_assoc, List.append_assoc]
    rfl
  rw [element, opened, List.takeWhile_append_of_pos all]
  rcases ends with rfl | ⟨more, rfl⟩
  · exact (congrArg String.ofList (List.append_nil _)).trans String.ofList_toList
  · rw [String.toList_append]
    exact (congrArg String.ofList (List.append_nil _)).trans String.ofList_toList

theorem element_bracket_self {name : String}
    (letters : ' ' ∉ name.toList ∧ '>' ∉ name.toList) : element (bracket name) = name := by
  have named : element (bracket (name ++ "")) = name := element_bracket letters (.inl rfl)
  rw [String.append_empty] at named
  exact named

theorem sections_append {front : List Tagged} (others : ∀ t ∈ front, element t.tag ≠ "node")
    (rest : List Tagged) : sections (front ++ rest) = sections rest := by
  induction front with
  | nil => rfl
  | cons t front ih =>
    rw [List.forall_mem_cons] at others
    rw [List.cons_append, sections, if_neg others.1, ih others.2]

/-- A node with its data, up to its end. -/
theorem sections_node {start stop : Tagged} {front : List Tagged}
    (starts : element start.tag = "node") (stops : element stop.tag = "/node")
    (between : ∀ t ∈ front, element t.tag = "data" ∨ element t.tag = "/data") (rest : List Tagged) :
    sections (start :: (front ++ stop :: rest)) =
      front.filter (fun t => element t.tag = "data") :: sections rest := by
  -- data does not end the node, so what is taken goes up to the end tag
  have kept : ∀ t ∈ front, decide (element t.tag ≠ "/node") = true := by
    intro t present
    rcases between t present with isData | isEnd
    · rw [isData]
      decide
    · rw [isEnd]
      decide
  have others : ∀ t ∈ front ++ [stop], element t.tag ≠ "node" := by
    intro t present
    rcases List.mem_append.mp present with inFront | last
    · rcases between t inFront with isData | isEnd
      · rw [isData]
        decide
      · rw [isEnd]
        decide
    · rw [List.mem_singleton.mp last, stops]
      decide
  rw [sections, if_pos starts, List.takeWhile_append_of_pos kept, List.takeWhile_cons_of_neg,
    List.append_nil, List.append_cons, sections_append others]
  rw [stops]
  decide

end Tagged

/-! ## Trees without values -/

namespace Node

/-- The tree with every value of an attribute empty. -/
def eraseValues (n : Node) : Node :=
  n.mapInfo fun info => { info with attributes := info.attributes.map fun a => (a.1, "") }

theorem typeName_eraseValues (n : Node) : n.eraseValues.typeName = n.typeName := by
  rw [typeName, eraseValues, info_mapInfo]
  rfl

theorem attributes_eraseValues (n : Node) :
    n.eraseValues.attributes = n.attributes.map fun a => (a.1, "") := by
  rw [attributes, eraseValues, info_mapInfo]
  rfl

theorem preorder_eraseValues (n : Node) : n.eraseValues.preorder = n.preorder.map eraseValues :=
  preorder_mapInfo _ n

end Node

/-! ## The tags of a document -/

namespace Encoder.GraphML

open Session Atom

/-- A tag with fields and something before its end. -/
def startTag (name : String) (fields : List (String × String)) (ending : String) : String :=
  name ++ (String.join (fields.map fun f => " " ++ f.1 ++ "=\"" ++ f.2 ++ "\"") ++ ending)

/-- The tag that declares a key. -/
def keyTag (element name : String) : String :=
  startTag "key" [("id", name), ("for", element), ("attr.name", name), ("attr.type", "string")] "/"

/-- The tag that starts a data element. -/
def dataTag (key : String) : String :=
  startTag "data" [("key", key)] ""

/-- The tag that starts a node. -/
def nodeTag (id : String) (n : Node) : String :=
  startTag "node" [("id", id), ("labels", ":Node:" ++ n.typeName)] ""

/-- The tag that starts an edge. -/
def edgeTag (edgeId parentId childId : String) : String :=
  startTag "edge"
    [("id", edgeId), ("source", childId), ("target", parentId), ("label", "PARENT")] ""

/-- The declaration before the root element. -/
def declarationTag : String :=
  startTag "?xml" [("version", "1.0"), ("encoding", "UTF-8")] "?"

/-- The tag that starts the root element, in three lines. -/
def rootTag : String :=
  startTag "graphml" [("xmlns", "http://graphml.graphdrawing.org/xmlns")]
    (startTag "\n        " [("xmlns:xsi", "http://www.w3.org/2001/XMLSchema-instance")]
      (startTag "\n        " [("xsi:schemaLocation", "http://graphml.graphdrawing.org/xmlns " ++
        "http://graphml.graphdrawing.org/xmlns/1.0/graphml.xsd")] ""))

/-- The tag that starts the graph. -/
def graphTag : String :=
  startTag "graph" [("id", "G"), ("edgedefault", "directed")] ""

/-- The tags of a node and its data. -/
def nodeTags (includeTypeName : Bool) (id : String) (n : Node) : List String :=
  nodeTag id n :: ((held includeTypeName n).flatMap fun d => [dataTag d.1, "/data"]) ++ ["/node"]

/-- The tags of an edge and its data. -/
def edgeTags (edgeId parentId childId : String) : List String :=
  [edgeTag edgeId parentId childId, dataTag "PARENT", "/data", "/edge"]

/-- The tags of the document of a tree, in order. -/
def tagSequence (includeTypeName : Bool) (root : Node) : List String :=
  ([declarationTag, rootTag] ++ (nodeKeys includeTypeName root).map (keyTag "node") ++
    (edgeKeys root).map (keyTag "edge") ++ [graphTag] ++
    (root.preorder.mapIdx fun k n => nodeTags includeTypeName (nodeName k) n).flatten ++
    (root.parentPairs.mapIdx fun k pair =>
      edgeTags (edgeName k) (nodeName pair.2) (nodeName pair.1)).flatten ++
    ["/graph", "/graphml"]).map bracket

theorem map_fst_held_eraseValues (types : Bool) (n : Node) :
    (held types n.eraseValues).map Prod.fst = (held types n).map Prod.fst := by
  rw [held, held, List.map_append, List.map_append, Node.attributes_eraseValues,
    Node.typeName_eraseValues, List.map_map]
  rfl

theorem nodeTags_eraseValues (types : Bool) (id : String) (n : Node) :
    nodeTags types id n.eraseValues = nodeTags types id n := by
  have data (m : Node) : ((held types m).flatMap fun d => [dataTag d.1, "/data"]) =
      ((held types m).map Prod.fst).flatMap fun key => [dataTag key, "/data"] := by
    rw [List.flatMap_map]
  rw [nodeTags, nodeTags, data, data, map_fst_held_eraseValues, nodeTag,
    Node.typeName_eraseValues]
  rfl

/-- The tags of a document do not depend on the values of attributes. -/
theorem tagSequence_eraseValues (types : Bool) (root : Node) :
    tagSequence types root.eraseValues = tagSequence types root := by
  have keys : nodeKeys types root.eraseValues = nodeKeys types root := by
    rw [nodeKeys, nodeKeys, Node.preorder_eraseValues, List.flatMap_map]
    refine congrArg (fun f => sortedKeys (root.preorder.flatMap f)) (funext fun n => ?_)
    rw [keysOf, keysOf, map_fst_held_eraseValues]
  have nodes : (root.eraseValues.preorder.mapIdx fun k n => nodeTags types (nodeName k) n) =
      root.preorder.mapIdx fun k n => nodeTags types (nodeName k) n := by
    rw [Node.preorder_eraseValues]
    refine List.ext_getElem (by simp) fun k inside inside' => ?_
    rw [List.getElem_mapIdx, List.getElem_mapIdx, List.getElem_map, nodeTags_eraseValues]
  rw [tagSequence, keys, nodes, edgeKeys, Node.eraseValues, Node.parentPairs_mapInfo]
  rfl

/-! ## The document as tags and texts -/

/-- The declaration of a key. -/
def keyAtoms (element name : String) : List Atom :=
  [.text "\n    ", .tag (keyTag element name)]

/-- A data element. -/
def dataAtoms (data : String × String) : List Atom :=
  [.text "\n            ", .tag (dataTag data.1), .text (Text.escapeData data.2), .tag "/data"]

/-- A node with its data. -/
def nodeAtoms (includeTypeName : Bool) (id : String) (n : Node) : List Atom :=
  [.text "\n        ", .tag (nodeTag id n)] ++ (held includeTypeName n).flatMap dataAtoms ++
    [.text "\n        ", .tag "/node"]

/-- An edge with its data. -/
def edgeAtoms (edgeId parentId childId : String) : List Atom :=
  [.text "\n        ", .tag (edgeTag edgeId parentId childId)] ++
    dataAtoms ("PARENT", "PARENT") ++ [.text "\n        ", .tag "/edge"]

/-- What is before the keys. -/
def headAtoms : List Atom :=
  [.tag declarationTag, .text "\n", .tag rootTag, .text "\n"]

/-- The start of the graph. -/
def graphAtoms : List Atom :=
  [.text "\n    ", .tag graphTag]

/-- The end of the graph and of the document. -/
def tailAtoms : List Atom :=
  [.text "\n    ", .tag "/graph", .text "\n", .tag "/graphml"]

/-- The whole document. -/
def atoms (includeTypeName : Bool) (root : Node) : List Atom :=
  headAtoms ++ ((nodeKeys includeTypeName root).flatMap (keyAtoms "node") ++
    ((edgeKeys root).flatMap (keyAtoms "edge") ++ (graphAtoms ++
      ((named root).flatMap (fun named => nodeAtoms includeTypeName named.1 named.2) ++
        ((links root).flatMap (fun e => edgeAtoms e.id e.target e.source) ++ tailAtoms)))))

theorem written_keyAtoms (element name : String) :
    writtenAll (keyAtoms element name) = keyLine element name := by
  unfold keyAtoms keyTag startTag keyLine
  rw [writtenAll_cons, writtenAll_cons, written, written, bracket]
  simp [← String.toList_inj, writtenAll]

theorem written_dataAtoms (data : String × String) :
    writtenAll (dataAtoms data) = dataLine data.1 data.2 := by
  unfold dataAtoms dataTag startTag dataLine
  rw [writtenAll_cons, writtenAll_cons, writtenAll_cons, writtenAll_cons, written, written, written,
    written, bracket, bracket]
  simp [← String.toList_inj, writtenAll]

theorem written_nodeAtoms (types : Bool) (id : String) (n : Node) :
    writtenAll (nodeAtoms types id n) = (nodeElement types id n).text := by
  have data : writtenAll ((held types n).flatMap dataAtoms) =
      String.join ((held types n).map fun d => dataLine d.1 d.2) := by
    rw [writtenAll_flatMap]
    exact congrArg String.join (List.map_congr_left fun d _ => written_dataAtoms d)
  unfold nodeAtoms nodeTag startTag Element.text nodeElement
  rw [writtenAll_append, writtenAll_append, data, writtenAll_cons, writtenAll_cons, writtenAll_cons,
    writtenAll_cons, written, written, written, bracket, bracket]
  simp [← String.toList_inj, writtenAll]

theorem written_edgeAtoms (e : Edge) :
    writtenAll (edgeAtoms e.id e.target e.source) = (edgeElement e).text := by
  unfold edgeAtoms edgeTag startTag Element.text edgeElement
  rw [writtenAll_append, writtenAll_append, written_dataAtoms, writtenAll_cons, writtenAll_cons,
    writtenAll_cons, writtenAll_cons, written, written, written, bracket, bracket]
  simp [← String.toList_inj, writtenAll]

theorem written_headAtoms : writtenAll headAtoms = heading := by
  decide +kernel

/-- A document is put together from its tags and texts. -/
theorem written_atoms (types : Bool) (root : Node) :
    writtenAll (atoms types root) = (graphml types).run .empty root := by
  have keys (element : String) (names : List String) :
      writtenAll (names.flatMap (keyAtoms element)) =
        String.join ((names.map (Prod.mk element)).map fun key => keyLine key.1 key.2) := by
    rw [writtenAll_flatMap, List.map_map]
    exact congrArg String.join (List.map_congr_left fun name _ => written_keyAtoms element name)
  have nodes : writtenAll ((named root).flatMap fun named => nodeAtoms types named.1 named.2) =
      String.join ((nodeElements types root).map Element.text) := by
    rw [writtenAll_flatMap, nodeElements, List.map_map]
    exact congrArg String.join (List.map_congr_left fun _ _ => written_nodeAtoms ..)
  have edges : writtenAll ((links root).flatMap fun e => edgeAtoms e.id e.target e.source) =
      String.join (((links root).map edgeElement).map Element.text) := by
    rw [writtenAll_flatMap, List.map_map]
    exact congrArg String.join (List.map_congr_left fun e _ => written_edgeAtoms e)
  have graph : writtenAll graphAtoms = "\n    <graph id=\"G\" edgedefault=\"directed\">" := by
    decide +kernel
  have last : writtenAll tailAtoms = "\n    </graph>\n</graphml>" := by
    decide +kernel
  rw [atoms, writtenAll_append, writtenAll_append, writtenAll_append, writtenAll_append,
    writtenAll_append, writtenAll_append, written_headAtoms, keys, keys, nodes, edges, graph, last,
    run_eq_sheet, Sheet.text, sheet, List.map_append, List.map_append, String.join_append,
    String.join_append]
  simp only [String.append_assoc]

/-! ## Names and values -/

/-- No name that is written inside a tag ends it. -/
def Safe (n : Node) : Prop :=
  '>' ∉ n.typeName.toList ∧ ∀ name ∈ n.attributes.map Prod.fst, '>' ∉ name.toList

instance : DecidablePred Safe := fun n =>
  inferInstanceAs (Decidable ('>' ∉ n.typeName.toList ∧
    ∀ name ∈ n.attributes.map Prod.fst, '>' ∉ name.toList))

theorem not_mem_startTag {name ending : String} {fields : List (String × String)}
    (plainName : '>' ∉ name.toList)
    (plainFields : ∀ f ∈ fields, '>' ∉ f.1.toList ∧ '>' ∉ f.2.toList)
    (plainEnding : '>' ∉ ending.toList) : '>' ∉ (startTag name fields ending).toList := by
  rw [startTag, String.toList_append, String.toList_append, String.toList_join, List.mem_append,
    List.mem_append, not_or, not_or]
  refine ⟨plainName, ?_, plainEnding⟩
  intro present
  obtain ⟨written, isField, inside⟩ := List.mem_flatMap.mp present
  obtain ⟨f, inFields, rfl⟩ := List.mem_map.mp isField
  obtain ⟨plainKey, plainValue⟩ := plainFields f inFields
  have plain : '>' ∉ (" " ++ f.1 ++ "=\"" ++ f.2 ++ "\"").toList := by
    simp only [String.toList_append, List.mem_append, not_or]
    exact ⟨⟨⟨⟨by decide, plainKey⟩, by decide⟩, plainValue⟩, by decide⟩
  exact plain inside

theorem not_mem_escapeData (value : String) : '<' ∉ (Text.escapeData value).toList := by
  rw [Text.escapeData, Text.replaceEach, String.toList_ofList, List.mem_flatMap]
  rintro ⟨c, _, present⟩
  unfold Text.dataChar at present
  split at present
  · exact absurd present (by decide)
  · exact absurd present (by decide)
  · next noLess _ => exact noLess (List.mem_singleton.mp present).symm

theorem not_mem_toString (k : Nat) : '>' ∉ (toString k).toList := by
  intro present
  rw [Decimal.toList_toString] at present
  exact absurd (Decimal.isDigit_of_mem_toDigits k _ present) (by decide)

theorem not_mem_nodeName (k : Nat) : '>' ∉ (nodeName k).toList := by
  rw [nodeName, String.toList_append, List.mem_append, not_or]
  exact ⟨by decide, not_mem_toString k⟩

theorem not_mem_edgeName (k : Nat) : '>' ∉ (edgeName k).toList := by
  rw [edgeName, String.toList_append, List.mem_append, not_or]
  exact ⟨by decide, not_mem_toString k⟩

theorem plain_headAtoms : ∀ a ∈ headAtoms, a.Plain := by
  have declaration : '>' ∉ declarationTag.toList :=
    not_mem_startTag (by decide) (by decide) (by decide)
  have locations : '>' ∉ ("http://graphml.graphdrawing.org/xmlns " ++
      "http://graphml.graphdrawing.org/xmlns/1.0/graphml.xsd").toList := by
    rw [String.toList_append, List.mem_append, not_or]
    exact ⟨by decide, by decide⟩
  have root : '>' ∉ rootTag.toList := by
    refine not_mem_startTag (by decide) (by decide) (not_mem_startTag (by decide) (by decide)
      (not_mem_startTag (by decide) ?_ (by decide)))
    rw [List.forall_mem_singleton]
    exact ⟨by decide, locations⟩
  simp only [headAtoms, List.forall_mem_cons]
  exact ⟨declaration, by decide, root, by decide, by simp⟩

theorem plain_keyAtoms {element name : String} (plainElement : '>' ∉ element.toList)
    (plainName : '>' ∉ name.toList) : ∀ a ∈ keyAtoms element name, a.Plain := by
  have tag : '>' ∉ (keyTag element name).toList := by
    refine not_mem_startTag (by decide) ?_ (by decide)
    simp only [List.forall_mem_cons]
    exact ⟨⟨by decide, plainName⟩, ⟨by decide, plainElement⟩, ⟨by decide, plainName⟩,
      ⟨by decide, by decide⟩, by simp⟩
  simp only [keyAtoms, List.forall_mem_cons]
  exact ⟨by decide, tag, by simp⟩

theorem plain_dataAtoms {data : String × String} (plainKey : '>' ∉ data.1.toList) :
    ∀ a ∈ dataAtoms data, a.Plain := by
  have tag : '>' ∉ (dataTag data.1).toList := by
    refine not_mem_startTag (by decide) ?_ (by decide)
    simp only [List.forall_mem_singleton]
    exact ⟨by decide, plainKey⟩
  simp only [dataAtoms, List.forall_mem_cons]
  exact ⟨by decide, tag, not_mem_escapeData data.2, by decide, by simp⟩

theorem plain_nodeAtoms (types : Bool) {id : String} (plainId : '>' ∉ id.toList) {n : Node}
    (safe : Safe n) : ∀ a ∈ nodeAtoms types id n, a.Plain := by
  have label : '>' ∉ (":Node:" ++ n.typeName).toList := by
    rw [String.toList_append, List.mem_append, not_or]
    exact ⟨by decide, safe.1⟩
  have tag : '>' ∉ (nodeTag id n).toList := by
    refine not_mem_startTag (by decide) ?_ (by decide)
    simp only [List.forall_mem_cons]
    exact ⟨⟨by decide, plainId⟩, ⟨by decide, label⟩, by simp⟩
  have keys : ∀ data ∈ held types n, '>' ∉ data.1.toList := by
    intro data present
    rcases List.mem_append.mp present with isType | isAttribute
    · split at isType
      · rw [List.mem_singleton.mp isType]
        show '>' ∉ "type".toList
        decide
      · cases isType
    · exact safe.2 _ (List.mem_map_of_mem isAttribute)
  simp only [nodeAtoms, List.forall_mem_append, List.forall_mem_cons]
  refine ⟨⟨⟨by decide, tag, by simp⟩, ?_⟩, by decide, by decide, by simp⟩
  intro a present
  obtain ⟨data, inData, here⟩ := List.mem_flatMap.mp present
  exact plain_dataAtoms (keys data inData) a here

theorem plain_edgeAtoms {edgeId parentId childId : String} (plainId : '>' ∉ edgeId.toList)
    (plainParent : '>' ∉ parentId.toList) (plainChild : '>' ∉ childId.toList) :
    ∀ a ∈ edgeAtoms edgeId parentId childId, a.Plain := by
  have tag : '>' ∉ (edgeTag edgeId parentId childId).toList := by
    refine not_mem_startTag (by decide) ?_ (by decide)
    simp only [List.forall_mem_cons]
    exact ⟨⟨by decide, plainId⟩, ⟨by decide, plainChild⟩, ⟨by decide, plainParent⟩,
      ⟨by decide, by decide⟩, by simp⟩
  simp only [edgeAtoms, List.forall_mem_append, List.forall_mem_cons]
  exact ⟨⟨⟨by decide, tag, by simp⟩, plain_dataAtoms (by decide)⟩, by decide, by decide, by simp⟩

theorem plain_atoms (types : Bool) {root : Node} (safe : ∀ n ∈ root.preorder, Safe n) :
    ∀ a ∈ atoms types root, a.Plain := by
  have inKeys : ∀ key ∈ nodeKeys types root, '>' ∉ key.toList := by
    intro key present
    rcases mem_nodeKeys.mp present with rfl | rfl | ⟨_, rfl⟩ | ⟨n, inTree, isName⟩
    · decide
    · decide
    · decide
    · exact (safe n inTree).2 key isName
  have inEdgeKeys : ∀ key ∈ edgeKeys root, '>' ∉ key.toList := by
    rw [edgeKeys_eq]
    split
    · decide
    · simp
  simp only [atoms, List.forall_mem_append, List.forall_mem_flatMap]
  refine ⟨plain_headAtoms, fun key present => plain_keyAtoms (by decide) (inKeys key present),
    fun key present => plain_keyAtoms (by decide) (inEdgeKeys key present), by decide, ?_, ?_,
    by decide⟩
  · rintro ⟨id, n⟩ present
    obtain ⟨k, inside, same⟩ := List.mem_mapIdx.mp present
    cases same
    exact plain_nodeAtoms types (not_mem_nodeName k) (safe _ (List.getElem_mem inside))
  · intro e present
    obtain ⟨k, inside, rfl⟩ := List.mem_mapIdx.mp present
    exact plain_edgeAtoms (not_mem_edgeName k) (not_mem_nodeName _) (not_mem_nodeName _)

/-! ## What a reader sees -/

/-- The data elements of a node as a reader sees them. -/
def dataSeen (includeTypeName : Bool) (n : Node) : List Tagged :=
  (held includeTypeName n).map fun d => ⟨bracket (dataTag d.1), Text.escapeData d.2⟩

theorem filterMap_tag?_atoms (types : Bool) (root : Node) :
    (atoms types root).filterMap tag? = tagSequence types root := by
  have keys (element : String) (names : List String) :
      (names.flatMap (keyAtoms element)).filterMap tag? =
        (names.map (keyTag element)).map bracket := by
    rw [List.filterMap_flatMap, List.map_map]
    exact List.map_eq_flatMap.symm
  have data (n : Node) : ((held types n).flatMap dataAtoms).filterMap tag? =
      ((held types n).flatMap fun d => [dataTag d.1, "/data"]).map bracket := by
    rw [List.filterMap_flatMap, List.map_flatMap]
    rfl
  have node (id : String) (n : Node) :
      (nodeAtoms types id n).filterMap tag? = (nodeTags types id n).map bracket := by
    rw [nodeAtoms, nodeTags, List.filterMap_append, List.filterMap_append, data, List.map_append,
      List.map_cons]
    rfl
  have nodes : ((named root).flatMap fun named => nodeAtoms types named.1 named.2).filterMap tag? =
      (root.preorder.mapIdx fun k n => nodeTags types (nodeName k) n).flatten.map bracket := by
    rw [List.filterMap_flatMap, named, List.map_flatten, map_mapIdx, List.flatMap_def, map_mapIdx]
    simp only [node]
  have edges : ((links root).flatMap fun e => edgeAtoms e.id e.target e.source).filterMap tag? =
      (root.parentPairs.mapIdx fun k pair =>
        edgeTags (edgeName k) (nodeName pair.2) (nodeName pair.1)).flatten.map bracket := by
    rw [List.filterMap_flatMap, links, List.map_flatten, map_mapIdx, List.flatMap_def, map_mapIdx]
    rfl
  rw [atoms, tagSequence]
  simp only [List.filterMap_append, List.map_append, keys, nodes, edges, List.append_assoc]
  rfl

theorem element_startTag {name : String} (letters : ' ' ∉ name.toList ∧ '>' ∉ name.toList)
    (f : String × String) (fields : List (String × String)) (ending : String) :
    Tagged.element (bracket (startTag name (f :: fields) ending)) = name := by
  rw [startTag, List.map_cons, String.join_cons]
  simp only [String.append_assoc]
  exact Tagged.element_bracket letters (.inr ⟨_, rfl⟩)

/-- Data elements in a row: the tags are theirs, and the text after each first tag is a value. -/
theorem foldr_dataAtoms (data : List (String × String)) (s : Split) :
    ∃ lead front, (data.flatMap dataAtoms).foldr onto s = ⟨lead, front ++ s.tagged⟩ ∧
      (∀ t ∈ front, Tagged.element t.tag = "data" ∨ Tagged.element t.tag = "/data") ∧
      front.filter (fun t => Tagged.element t.tag = "data") =
        data.map fun d => ⟨bracket (dataTag d.1), Text.escapeData d.2⟩ := by
  induction data with
  | nil => exact ⟨s.lead, [], rfl, by simp, rfl⟩
  | cons d rest ih =>
    obtain ⟨lead, front, seen, between, values⟩ := ih
    have starts : Tagged.element (bracket (dataTag d.1)) = "data" :=
      element_startTag (by decide) ..
    have stops : Tagged.element (bracket "/data") = "/data" :=
      Tagged.element_bracket_self (by decide)
    refine ⟨"\n            ", ⟨bracket (dataTag d.1), Text.escapeData d.2⟩ ::
      ⟨bracket "/data", lead⟩ :: front, ?_, ?_, ?_⟩
    · rw [List.flatMap_cons, List.foldr_append, seen]
      simp only [dataAtoms, List.foldr_cons, List.foldr_nil, onto, String.append_empty,
        List.cons_append]
    · rw [List.forall_mem_cons, List.forall_mem_cons]
      exact ⟨.inl starts, .inr stops, between⟩
    · rw [List.filter_cons_of_pos (by simpa using starts), List.filter_cons_of_neg, values,
        List.map_cons]
      rw [stops]
      decide

theorem sections_nodeAtoms (types : Bool) (id : String) (n : Node) (s : Split) :
    Tagged.sections ((nodeAtoms types id n).foldr onto s).tagged =
      dataSeen types n :: Tagged.sections s.tagged := by
  -- atoms are seen from the last to the first: the end tag, the data, the start tag
  obtain ⟨lead, front, seen, between, values⟩ := foldr_dataAtoms (held types n)
    ⟨"\n        ", ⟨bracket "/node", s.lead⟩ :: s.tagged⟩
  have ends : [Atom.text "\n        ", .tag "/node"].foldr onto s =
      ⟨"\n        ", ⟨bracket "/node", s.lead⟩ :: s.tagged⟩ := by
    simp only [List.foldr_cons, List.foldr_nil, onto, String.append_empty]
  rw [nodeAtoms, List.foldr_append, List.foldr_append, ends, seen, dataSeen, ← values]
  have starts : Tagged.element (⟨bracket (nodeTag id n), lead⟩ : Tagged).tag = "node" :=
    element_startTag (by decide) ..
  have stops : Tagged.element (⟨bracket "/node", s.lead⟩ : Tagged).tag = "/node" :=
    Tagged.element_bracket_self (by decide)
  exact Tagged.sections_node starts stops between s.tagged

/-- What a node element holds, for one node after the other. -/
theorem sections_nodes (types : Bool) (nodes : List (String × Node)) (s : Split) :
    Tagged.sections
        ((nodes.flatMap fun named => nodeAtoms types named.1 named.2).foldr onto s).tagged =
      nodes.map (fun named => dataSeen types named.2) ++ Tagged.sections s.tagged := by
  induction nodes with
  | nil => rfl
  | cons named rest ih =>
    rw [List.flatMap_cons, List.foldr_append, sections_nodeAtoms, ih, List.map_cons,
      List.cons_append]

/-- Tags that start no node do not matter to what nodes hold. -/
theorem sections_foldr_onto {atoms : List Atom}
    (others : ∀ tag ∈ atoms.filterMap tag?, Tagged.element tag ≠ "node")
    (s : Split) : Tagged.sections (atoms.foldr onto s).tagged = Tagged.sections s.tagged := by
  induction atoms with
  | nil => rfl
  | cons a rest ih =>
    cases a with
    | text content => exact ih others
    | tag body =>
      have split : ∀ tag ∈ bracket body :: rest.filterMap tag?, Tagged.element tag ≠ "node" :=
        others
      rw [List.forall_mem_cons] at split
      rw [List.foldr_cons, onto, Tagged.sections, if_neg split.1]
      exact ih split.2

theorem element_headTags : ∀ tag ∈ headAtoms.filterMap tag?, Tagged.element tag ≠ "node" := by
  have declaration : Tagged.element (bracket declarationTag) = "?xml" :=
    element_startTag (by decide) ..
  have root : Tagged.element (bracket rootTag) = "graphml" := element_startTag (by decide) ..
  intro tag present
  have split : tag ∈ [bracket declarationTag, bracket rootTag] := present
  rw [List.mem_cons, List.mem_singleton] at split
  rcases split with rfl | rfl
  · rw [declaration]
    decide
  · rw [root]
    decide

/-- What the nodes of a document hold. -/
theorem sections_atoms (types : Bool) (root : Node) :
    Tagged.sections ((atoms types root).foldr onto ⟨"", []⟩).tagged =
      root.preorder.map (dataSeen types) := by
  have keys (element : String) (names : List String) :
      ∀ tag ∈ (names.flatMap (keyAtoms element)).filterMap tag?, Tagged.element tag ≠ "node" := by
    intro tag present
    rw [List.filterMap_flatMap] at present
    obtain ⟨name, _, here⟩ := List.mem_flatMap.mp present
    have isKey : Tagged.element (bracket (keyTag element name)) = "key" :=
      element_startTag (by decide) ..
    rw [List.mem_singleton.mp here, isKey]
    decide
  have edges : ∀ tag ∈ ((links root).flatMap fun e => edgeAtoms e.id e.target e.source).filterMap
      tag?, Tagged.element tag ≠ "node" := by
    intro tag present
    rw [List.filterMap_flatMap] at present
    obtain ⟨e, _, here⟩ := List.mem_flatMap.mp present
    have split : tag ∈ (edgeTags e.id e.target e.source).map bracket := here
    rw [edgeTags, List.map_cons, List.mem_cons] at split
    rcases split with rfl | inData
    · have isEdge : Tagged.element (bracket (edgeTag e.id e.target e.source)) = "edge" :=
        element_startTag (by decide) ..
      rw [isEdge]
      decide
    · have closed : ∀ tag ∈ [dataTag "PARENT", "/data", "/edge"].map bracket,
          Tagged.element tag ≠ "node" := by
        decide +kernel
      exact closed tag inData
  rw [atoms, List.foldr_append, sections_foldr_onto element_headTags, List.foldr_append,
    sections_foldr_onto (keys "node" _), List.foldr_append, sections_foldr_onto (keys "edge" _),
    List.foldr_append, sections_foldr_onto (by decide +kernel), List.foldr_append, sections_nodes,
    List.foldr_append, sections_foldr_onto edges, sections_foldr_onto (by decide +kernel)]
  exact (List.append_nil _).trans (map_mapIdx_of_forall root.preorder fun _ _ => rfl)

/-- Where no name ends a tag, a reader of the document sees the tags of the tree without its values,
and in each node the type, if it is included, and the attributes, each value as it is escaped.
Values that spell out no entity can be read back from there, and no others. -/
theorem values_stay_text (types : Bool) (root : Node) (safe : ∀ n ∈ root.preorder, Safe n) :
    (Split.ofString ((graphml types).run .empty root)).lead = "" ∧
      (Split.ofString ((graphml types).run .empty root)).tags =
        tagSequence types root.eraseValues ∧
      Tagged.sections (Split.ofString ((graphml types).run .empty root)).tagged =
        root.preorder.map (fun n =>
          ((if types then [("type", n.typeName)] else []) ++ n.attributes).map fun data =>
            ⟨bracket (dataTag data.1), Text.escapeData data.2⟩) ∧
      ∀ value, Text.unescapeData (Text.escapeData value) = value ↔
        ¬ "&lt;".toList <:+: value.toList ∧ ¬ "&gt;".toList <:+: value.toList := by
  have seen : Split.ofString ((graphml types).run .empty root) =
      (atoms types root).foldr onto ⟨"", []⟩ := by
    have read := outside_written (plain_atoms types safe) []
    rw [List.append_nil, written_atoms] at read
    exact read
  rw [seen]
  refine ⟨rfl, ?_, sections_atoms types root, Text.unescapeData_escapeData_eq_iff⟩
  rw [tags_foldr_onto, filterMap_tag?_atoms, tagSequence_eraseValues]
  exact List.append_nil _

/-- A value that would end the node and start another, and one that spells out an entity. -/
theorem values_stay_text_hostile :
    let leaf : Node := .mk { typeName := "Leaf", attributes := [("text", "&lt;")] } [] []
    let tree : Node := .mk
      { typeName := "Call", attributes := [("name", "</data></node><node id=\"n1\">")] }
      [("arg", some leaf)] []
    (∀ n ∈ tree.preorder, Safe n) ∧
      Tagged.sections (Split.ofString ((graphml false).run .empty tree)).tagged =
        [[⟨"<data key=\"name\">", "&lt;/data&gt;&lt;/node&gt;&lt;node id=\"n1\"&gt;"⟩],
          [⟨"<data key=\"text\">", "&lt;"⟩]] ∧
      Text.unescapeData (Text.escapeData "&lt;") ≠ "&lt;" := by
  intro leaf tree
  have nodes : tree.preorder = [tree, leaf] := by
    simp [Node.preorder_eq, tree, leaf, Node.children, Node.singular, Node.lists]
  have safe : ∀ n ∈ tree.preorder, Safe n := by
    rw [nodes]
    decide
  obtain ⟨-, -, held, back⟩ := values_stay_text false tree safe
  refine ⟨safe, ?_, ?_⟩
  · rw [held, nodes]
    decide +kernel
  · rw [Ne, back]
    decide

end Encoder.GraphML

end SyntaxExport
