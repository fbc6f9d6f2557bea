import SyntaxExport.Proofs.Schema

/-!
# Where attributes go

The attributes of a piece of syntax are shared out between two slots of its node. The texts of
documentation become the content of the comment, one below the other, and all other attributes
become items of a list of their own. Both keep the order.

Whether an attribute goes to the comment is decided by its path, and what the comment says is taken
from its value. An attribute with the path of documentation and no text for a value, such as
`#[doc(hidden)]`, is therefore in neither: there is a comment, and it says nothing of it. These are
the only attributes that are lost.

Results:
1. `shared_loud`: all attributes but these are shared out.
2. `not_silent_of_shared`: with one of these among them, the attributes are not shared out.
3. `attributes_shared`: both, for files and all kinds of syntax that have attributes;
   `hidden_attribute_lost`: an attribute that is lost.
-/

namespace SyntaxExport

/-! ## Attributes of syntax -/

/-- The attributes of a piece of syntax of a kind that has them. -/
def Ast.attached? {src : List Char} : {c : Category} → {s : Shape} → Ast src c s →
    Option (List Attribute)
  | _, _, .arm _ attributes _ _ _ | _, _, .stmtLet _ attributes _ _ _
  | _, _, .stmtMacro _ attributes _ _ | _, _, .function _ _ attributes _ _ _ _ _ _ _
  | _, _, .field _ attributes _ _ _ | _, _, .variant _ attributes _ _ _ _
  | _, _, .itemStruct _ attributes _ _ _ _ _ | _, _, .itemEnum _ attributes _ _ _ _
  | _, _, .itemUse _ attributes _ _ | _, _, .itemConst _ attributes _ _ _ _
  | _, _, .itemStatic _ attributes _ _ _ _ _ | _, _, .itemModule _ attributes _ _ _ _
  | _, _, .itemImpl _ attributes _ _ _ _ _ _ | _, _, .itemTrait _ attributes _ _ _ _ _
  | _, _, .itemType _ attributes _ _ _ _ | _, _, .itemMacro _ attributes _ _ _
  | _, _, .implConst _ attributes _ _ _ _ | _, _, .implType _ attributes _ _ _
  | _, _, .traitConst _ attributes _ _ _ | _, _, .traitType _ attributes _ _ _ => some attributes
  -- these stand for what is inside
  | _, _, .stmtItem item => item.attached?
  | _, _, .itemFunction inner | _, _, .implFunction inner | _, _, .traitFunction inner =>
      inner.attached?
  | _, _, _ => none

namespace Lowering

/-! ## Lines of documentation -/

/-- The line is the text without the blank at its beginning, if it begins with one. -/
def Trims (text line : String) : Prop :=
  text.toList = ' ' :: line.toList ∨ text.toList.head? ≠ some ' ' ∧ text = line

theorem trims_docLine (text : String) : Trims text (docLine text) := by
  rw [docLine]
  split
  · next rest spelled => exact .inl (by rw [spelled, String.toList_ofList])
  · next other =>
    refine .inr ⟨fun blank => ?_, rfl⟩
    obtain ⟨rest, spelled⟩ := List.head?_eq_some_iff.mp blank
    exact other rest spelled

/-- The lines of texts that are joined by line feeds are the lines of each, one after another. -/
theorem splitOn_intercalate_lines {texts : List String} (some_text : texts ≠ []) :
    ("\n".intercalate texts).toList.splitOn '\n' = texts.flatMap (·.toList.splitOn '\n') := by
  induction texts with
  | nil => exact absurd rfl some_text
  | cons text texts ih =>
    cases texts with
    | nil => rw [String.intercalate_singleton, List.flatMap_singleton]
    | cons next texts =>
      have joined : ("\n".intercalate (text :: next :: texts)).toList =
          text.toList ++ '\n' :: ("\n".intercalate (next :: texts)).toList := by
        rw [String.intercalate_cons_cons, String.toList_append, String.toList_append,
          List.append_assoc]
        rfl
      rw [joined, List.splitOn_append_cons_self, ih (List.cons_ne_nil _ _)]
      rfl

/-! ## Sharing out -/

/-- The node that lists an attribute: a leaf of a type of its own that tells the style, the path and
the tokens, and that stands where the attribute stands if that is more than nothing. -/
def listed (l : Lowering) (a : Attribute) : Node :=
  let span := (Piece.spanOf a.extent).filter fun span => span.start ≠ span.stop
  .mk
    { typeName := "Attribute"
      attributes := [("style", if a.isInner then "inner" else "outer"), ("path", text a.path),
        ("tokens", text a.tokens)]
      coordinates := span.map coordinates
      text := span.bind l.slice? }
    [] []

theorem attributeNode_eq (l : Lowering) (a : Attribute) : l.attributeNode a = l.listed a := by
  unfold attributeNode leaf info listed
  cases (Piece.spanOf a.extent).filter fun span => span.start ≠ span.stop <;> rfl

/-- The attributes are shared out between lines of documentation and nodes, in their order: each
one with a text gives a line, and each other one gives the node that lists it. -/
inductive Shared (l : Lowering) : List Attribute → List String → List Node → Prop
  | nil : Shared l [] [] []
  | line {a : Attribute} {text line : String} {attached : List Attribute} {lines : List String}
      {nodes : List Node} :
      a.documentation = .text text → Trims text line → Shared l attached lines nodes →
      Shared l (a :: attached) (line :: lines) nodes
  | node {a : Attribute} {attached : List Attribute} {lines : List String} {nodes : List Node} :
      (∀ text, a.documentation ≠ .text text) → Shared l attached lines nodes →
      Shared l (a :: attached) lines (l.listed a :: nodes)

/-- The lines are what the comment of a node says: they are joined to its content, and what was a
line break in one of them is one there. No comment says nothing. -/
structure Tells (n : Node) (lines : List String) : Prop where
  content : ∀ comment ∈ n.child? "comment", comment.typeName = "DocComment" ∧
    comment.attribute? "content" = some ("\n".intercalate lines)
  groups : ∀ comment ∈ n.child? "comment", lines ≠ [] →
    ∀ content ∈ comment.attribute? "content",
      content.toList.splitOn '\n' = lines.flatMap (·.toList.splitOn '\n')
  absent : n.child? "comment" = none → lines = []

/-- All attributes are in the node: in its comment or in its list of attributes. -/
def Keeps (l : Lowering) (attached : List Attribute) (n : Node) : Prop :=
  ∃ lines, Shared l attached lines (n.items "attributes") ∧ Tells n lines

/-- The attribute has the path of documentation and no text. -/
def isSilent (a : Attribute) : Bool :=
  a.documentation == .other

/-- What becomes of the attributes of a node. -/
structure SharesOut (l : Lowering) (attached : List Attribute) (n : Node) : Prop where
  loud : l.Keeps (attached.filter (!isSilent ·)) n
  all_iff : l.Keeps attached n ↔ ∀ a ∈ attached, isSilent a = false
  comment_iff : (n.child? "comment").isSome ↔ ∃ a ∈ attached, a.documentation ≠ .no

variable {l : Lowering} {attached : List Attribute}

theorem shared_loud (l : Lowering) (attached : List Attribute) :
    Shared l (attached.filter (!isSilent ·)) (attached.filterMap docText?)
      (l.otherAttributes attached) := by
  induction attached with
  | nil => exact .nil
  | cons a attached ih =>
    cases about : a.documentation with
    | no =>
      have others : l.otherAttributes (a :: attached) =
          l.listed a :: l.otherAttributes attached := by
        simp [otherAttributes, isDoc, about, attributeNode_eq]
      have wordless : docText? a = none := by rw [docText?, about]
      rw [List.filter_cons_of_pos (by simp [isSilent, about]), List.filterMap_cons_none wordless,
        others]
      exact .node (by simp [about]) ih
    | other =>
      have others : l.otherAttributes (a :: attached) = l.otherAttributes attached := by
        simp [otherAttributes, isDoc, about]
      have wordless : docText? a = none := by rw [docText?, about]
      rw [List.filter_cons_of_neg (by simp [isSilent, about]), List.filterMap_cons_none wordless,
        others]
      exact ih
    | text value =>
      have others : l.otherAttributes (a :: attached) = l.otherAttributes attached := by
        simp [otherAttributes, isDoc, about]
      have said : docText? a = some (docLine value) := by rw [docText?, about]
      rw [List.filter_cons_of_pos (by simp [isSilent, about]), List.filterMap_cons_some said,
        others]
      exact .line about (trims_docLine value) ih

theorem Shared.length_nodes {lines : List String} {nodes : List Node}
    (shared : Shared l attached lines nodes) :
    nodes.length = attached.countP (docText? · |>.isNone) := by
  induction shared with
  | nil => rfl
  | line about _ _ ih =>
    rw [ih, List.countP_cons_of_neg]
    simp [docText?, about]
  | @node a _ _ _ wordless _ ih =>
    rw [List.length_cons, ih, List.countP_cons_of_pos]
    cases about : a.documentation with
    | text value => exact absurd about (wordless value)
    | no | other => simp [docText?, about]

/-- The list of a node is too short for attributes that are neither text nor listed. -/
theorem not_silent_of_shared {lines : List String}
    (shared : Shared l attached lines (l.otherAttributes attached)) :
    ∀ a ∈ attached, isSilent a = false := by
  have listed := (shared_loud l attached).length_nodes.symm.trans shared.length_nodes
  rw [List.countP_eq_countP_filter_add attached _ (!isSilent ·), Nat.left_eq_add,
    List.countP_eq_zero] at listed
  intro a present
  by_contra silent
  have about : a.documentation = .other := eq_of_beq (Bool.of_not_eq_false silent)
  refine listed a (List.mem_filter.mpr ⟨present, ?_⟩) ?_
  · simp [isSilent, about]
  · simp [docText?, about]

/-! ## Nodes with attributes -/

theorem isSome_comment_iff :
    (l.comment attached).isSome ↔ ∃ a ∈ attached, a.documentation ≠ .no := by
  have documented : (∃ a ∈ attached, a.documentation ≠ .no) ↔ attached.filter isDoc ≠ [] := by
    simp [isDoc]
  rw [documented, comment]
  cases attached.filter isDoc with
  | nil => simp
  | cons first rest => simp [List.getLast?_cons]

theorem of_mem_comment {n : Node} (present : n ∈ l.comment attached) :
    n.typeName = "DocComment" ∧
      n.attribute? "content" = some ("\n".intercalate (attached.filterMap docText?)) := by
  have selected : (attached.filter isDoc).filterMap docText? = attached.filterMap docText? := by
    rw [List.filterMap_filter]
    refine List.filterMap_congr fun a _ => ?_
    cases about : a.documentation <;> simp [isDoc, docText?, about]
  rw [comment] at present
  split at present
  · cases present
    rw [← selected]
    obtain ⟨coordinates, text, same⟩ := l.info_eq "DocComment" _
      [("content", "\n".intercalate ((attached.filter isDoc).filterMap docText?))]
    rw [same]
    exact ⟨rfl, rfl⟩
  · cases present

variable {typeName : String} {extent : Extent} {attributes : List (String × String)}
  {singular : List (String × Option Node)} {lists : List (String × List Node)}

theorem child?_attributed :
    (l.attributed typeName extent attached attributes singular lists).child? "comment" =
      l.comment attached :=
  rfl

theorem tells_attributed :
    Tells (l.attributed typeName extent attached attributes singular lists)
      (attached.filterMap docText?) where
  content comment present := of_mem_comment present
  groups comment present some_line content said := by
    obtain ⟨-, known⟩ := of_mem_comment present
    obtain rfl : "\n".intercalate (attached.filterMap docText?) = content :=
      Option.some.inj (known.symm.trans said)
    exact splitOn_intercalate_lines some_line
  absent none_there := by
    have undocumented : ¬∃ a ∈ attached, a.documentation ≠ .no := by
      rw [← isSome_comment_iff (l := l), ← child?_attributed, none_there]
      exact Bool.false_ne_true
    refine List.filterMap_eq_nil_iff.mpr fun a present => ?_
    have about : a.documentation = .no :=
      by_contra fun other => undocumented ⟨a, present, other⟩
    rw [docText?, about]

theorem sharesOut_attributed :
    l.SharesOut attached (l.attributed typeName extent attached attributes singular lists) where
  loud := ⟨_, shared_loud l attached, tells_attributed⟩
  all_iff := by
    constructor
    · rintro ⟨lines, shared, -⟩
      exact not_silent_of_shared shared
    · intro audible
      have all : attached.filter (!isSilent ·) = attached :=
        List.filter_eq_self.mpr fun a present => by rw [audible a present]; rfl
      have shared := shared_loud l attached
      rw [all] at shared
      exact ⟨_, shared, tells_attributed⟩
  comment_iff := isSome_comment_iff

/-- The attributes of a piece of syntax are shared out in the node that it becomes. -/
theorem sharesOut_lower {src : List Char} {c : Category} {s : Shape} (l : Lowering)
    (part : Ast src c s) (has : part.attached? = some attached) :
    s.Each (l.SharesOut attached) (l.lower part) := by
  induction part with
  | stmtItem _ ih | itemFunction _ ih | implFunction _ ih | traitFunction _ ih => exact ih has
  | arm | stmtLet | stmtMacro | function | field | variant | itemStruct | itemEnum | itemUse
  | itemConst | itemStatic | itemModule | itemImpl | itemTrait | itemType | itemMacro | implConst
  | implType | traitConst | traitType =>
    cases has
    exact sharesOut_attributed
  | _ => cases has

/-- Nothing is lost of the attributes of a file or of a piece of syntax but those with the path of
documentation and no text: the texts are the lines of the comment, and the others are listed. -/
theorem attributes_shared {src : List Char} (l : Lowering) :
    (∀ f : SourceFile src, l.SharesOut f.attributes (l.file f)) ∧
      ∀ (c : Category) (part : Ast src c .one) (attached : List Attribute),
        part.attached? = some attached → l.SharesOut attached (l.lower part) :=
  ⟨fun _ => sharesOut_attributed, fun _ part _ has => l.sharesOut_lower part has⟩

/-- Attributes of a statement: one of two lines behind a blank, one that is no documentation, and
one of one line. -/
def attributesOfMacro : List Attribute :=
  [⟨[], false, [], [], .text " one\n two"⟩, ⟨[], false, [], [], .no⟩,
    ⟨[], false, [], [], .text "three"⟩]

/-- All three are kept. -/
theorem attributes_shared_macro :
    (Lowering.ofSource "").Keeps attributesOfMacro
      ((Lowering.ofSource "").lower
        (.stmtMacro [] attributesOfMacro [] [] : Ast [] .stmt .one)) :=
  ((attributes_shared (Lowering.ofSource "")).2 _ _ attributesOfMacro rfl).all_iff.mpr (by decide)

end Lowering

namespace Source

/-- The type of the first item of a text, how many attributes it lists, and what its comment
says. -/
def firstItem? (text : String) : Option (String × Nat × Option String) := do
  let root ← (parse text).toOption
  let item ← root.children[0]?
  return (item.typeName, (item.items "attributes").length,
    (item.child? "comment").bind (·.attribute? "content"))

/-- Nothing is left of these attributes, which have the path of documentation and no text: they are
not listed, and the comment is empty. -/
theorem hidden_attribute_lost :
    firstItem? "#[doc(hidden)]\nstruct A;" = some ("ItemStruct", 0, some "") ∧
      firstItem? "#[doc = include_str!(\"y\")]\nstruct A;" = some ("ItemStruct", 0, some "") := by
  constructor
  · decide +kernel
  · decide +kernel

end Source

end SyntaxExport
