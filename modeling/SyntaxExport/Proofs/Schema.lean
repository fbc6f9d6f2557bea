import SyntaxExport.Proofs.Json.Document
import SyntaxExport.Proofs.Scope
import SyntaxExport.Source.Text

/-!
# The schema of lowered trees

The formats write names of types, attributes and slots as they are, take keys that start with an
underscore for themselves, and look at a few flags of a node. `Node.Conforms` says what they rely
on. Nodes of syntax get their names one kind at a time, so it is shown of each kind that its names
fit, and of each part of the syntax that its nodes conform if those below it do.

Results:
1. `allConform_of_fits`: a node whose names fit its type, over trees that conform.
2. `allConform_lower`: all nodes of syntax conform.
3. `Conforms.nodup_members`, `Conforms.unnumbered`: what follows for the formats.
4. `lowered_schema`: all of it for the trees of files and of source texts.
-/

namespace SyntaxExport

/-- ASCII letters and underscores, with a letter first. -/
def Text.isName (s : String) : Bool :=
  match s.toList with
  | [] => false
  | c :: rest => c.isAlpha && rest.all fun d => d.isAlpha || d == '_'

/-- A property of one value, of all in a list, or of one that may be absent. -/
@[simp]
def Shape.Each {α : Type} (P : α → Prop) : (s : Shape) → s.Of α → Prop
  | .one, value => P value
  | .many, values => ∀ value ∈ values, P value
  | .optional, value => ∀ v ∈ value, P v

namespace Node

/-- The names of a node's attributes, of its single slots and of its lists. -/
def keys (n : Node) : List String :=
  n.attributes.map Prod.fst ++ (n.singular.map Prod.fst ++ n.lists.map Prod.fst)

/-- The node has names that can be written as they are and told apart, and its flags say what its
type name says. -/
structure Conforms (n : Node) : Prop where
  typeName : Text.isName n.typeName = true
  keys : ∀ key ∈ n.keys, Text.isName key = true
  distinct : n.keys.Nodup
  expression : n.info.isExpression = true ↔ "Expr".toList <+: n.typeName.toList
  stringLiteral : n.info.isStringLiteral = true ↔
    n.typeName = "ExprLit" ∧ n.attribute? "kind" = some "str"
  constructed : n.info.constructedType.isSome = true ↔ n.typeName = "ExprStruct"

/-- Every node of the tree conforms. -/
def AllConform (n : Node) : Prop :=
  ∀ m ∈ n.preorder, m.Conforms

theorem mem_preorder_self (n : Node) : n ∈ n.preorder :=
  mem_preorder_iff.mpr (.inl rfl)

theorem mem_preorder_of_getElem? {n c m : Node} {k : Nat} (child : n.children[k]? = some c)
    (inside : m ∈ c.preorder) : m ∈ n.preorder :=
  mem_preorder_iff.mpr (.inr ⟨c, List.mem_of_getElem? child, inside⟩)

theorem AllConform.mk {n : Node} (own : n.Conforms) (below : ∀ c ∈ n.children, c.AllConform) :
    n.AllConform := by
  intro m present
  rcases mem_preorder_iff.mp present with rfl | ⟨c, child, inside⟩
  · exact own
  · exact below c child m inside

theorem forall_mem_children {P : Node → Prop} {info : NodeInfo}
    {singular : List (String × Option Node)} {lists : List (String × List Node)}
    (slots : ∀ slot ∈ singular, ∀ c ∈ slot.2, P c) (items : ∀ list ∈ lists, ∀ c ∈ list.2, P c) :
    ∀ c ∈ (mk info singular lists).children, P c := by
  intro c child
  rw [children, List.mem_append, List.mem_filterMap, List.mem_flatMap] at child
  rcases child with ⟨slot, present, held⟩ | ⟨list, present, held⟩
  · exact slots slot present c held
  · exact items list present c held

end Node

/-! ## Names of a kind -/

namespace Lowering

open Node

/-- The names of attributes some of which may be left out. -/
inductive Declares : List (String × String) → List String → Prop where
  | nil : Declares [] []
  | cons {name value : String} {rest : List (String × String)} {names : List String} :
      Declares rest names → Declares ((name, value) :: rest) (name :: names)
  | entryIf {name : String} {value : Option String} {rest : List (String × String)}
      {names : List String} :
      Declares rest names → Declares (entryIf name value ++ rest) (name :: names)
  | last {name : String} {value : Option String} : Declares (entryIf name value) [name]

theorem map_fst_entryIf (name : String) (value : Option String) :
    ((entryIf name value).map Prod.fst).Sublist [name] := by
  cases value with
  | none => exact List.nil_sublist _
  | some value => exact List.Sublist.refl _

theorem Declares.sublist {attributes : List (String × String)} {names : List String}
    (declares : Declares attributes names) : (attributes.map Prod.fst).Sublist names := by
  induction declares with
  | nil => exact List.Sublist.refl _
  | cons _ ih => exact ih.cons_cons _
  | @entryIf name value rest names _ ih =>
    rw [List.map_append]
    exact (map_fst_entryIf name value).append ih
  | last => exact map_fst_entryIf ..

/-- A type name with the keys that its nodes may have. -/
def Fits (isExpression : Bool) (typeName : String) (keys : List String) : Prop :=
  Text.isName typeName = true ∧ (∀ key ∈ keys, Text.isName key = true) ∧ keys.Nodup ∧
    (isExpression = true ↔ "Expr".toList <+: typeName.toList)

instance (isExpression : Bool) (typeName : String) (keys : List String) :
    Decidable (Fits isExpression typeName keys) :=
  inferInstanceAs (Decidable (_ ∧ _))

variable {l : Lowering} {typeName : String} {extent : Extent} {attributes : List (String × String)}
  {singular : List (String × Option Node)} {lists : List (String × List Node)}
  {names : List String}

theorem info_eq (l : Lowering) (typeName : String) (span : Option Span)
    (attributes : List (String × String)) :
    ∃ coordinates text, l.info typeName span attributes =
      { typeName, attributes, coordinates, text } := by
  unfold info
  split
  · exact ⟨_, _, rfl⟩
  · exact ⟨_, _, rfl⟩

/-- A node whose names fit its type, over trees that conform. -/
theorem allConform_of_fits {info : NodeInfo} (declares : Declares info.attributes names)
    (fits : Fits info.isExpression info.typeName
      (names ++ (singular.map Prod.fst ++ lists.map Prod.fst)))
    (literal : info.isStringLiteral = true ↔
      info.typeName = "ExprLit" ∧ info.attributes.lookup "kind" = some "str")
    (constructed : info.constructedType.isSome = true ↔ info.typeName = "ExprStruct")
    (slots : ∀ slot ∈ singular, ∀ c ∈ slot.2, AllConform c)
    (items : ∀ list ∈ lists, ∀ c ∈ list.2, AllConform c) :
    AllConform (.mk info singular lists) := by
  obtain ⟨isName, areNames, distinct, expression⟩ := fits
  have fewer : (Node.mk info singular lists).keys.Sublist
      (names ++ (singular.map Prod.fst ++ lists.map Prod.fst)) :=
    declares.sublist.append (List.Sublist.refl _)
  refine .mk ?_ (forall_mem_children slots items)
  exact ⟨isName, fun key present => areNames key (fewer.subset present), distinct.sublist fewer,
    expression, literal, constructed⟩

theorem allConform_plain {span : Option Span} (declares : Declares attributes names)
    (fits : Fits false typeName (names ++ (singular.map Prod.fst ++ lists.map Prod.fst)))
    (slots : ∀ slot ∈ singular, ∀ c ∈ slot.2, AllConform c)
    (items : ∀ list ∈ lists, ∀ c ∈ list.2, AllConform c) :
    AllConform (.mk (l.info typeName span attributes) singular lists) := by
  obtain ⟨coordinates, text, same⟩ := l.info_eq typeName span attributes
  have other (special : String) (isExpression : "Expr".toList <+: special.toList) :
      typeName ≠ special := by
    rintro rfl
    exact Bool.false_ne_true (fits.2.2.2.mpr isExpression)
  rw [same]
  refine allConform_of_fits declares fits ?_ ?_ slots items
  · exact iff_of_false nofun fun both => other "ExprLit" (by decide) both.1
  · exact iff_of_false nofun (other "ExprStruct" (by decide))

theorem allConform_expression (declares : Declares attributes names)
    (fits : Fits true typeName (names ++ (singular.map Prod.fst ++ lists.map Prod.fst)))
    (other : typeName ∉ ["ExprLit", "ExprStruct"])
    (slots : ∀ slot ∈ singular, ∀ c ∈ slot.2, AllConform c)
    (items : ∀ list ∈ lists, ∀ c ∈ list.2, AllConform c) :
    AllConform (l.expression typeName extent attributes singular lists) := by
  obtain ⟨coordinates, text, same⟩ := l.info_eq typeName (Piece.spanOf extent) attributes
  rw [expression, same]
  refine allConform_of_fits declares fits (iff_of_false nofun ?_) (iff_of_false nofun ?_) slots
    items
  · rintro ⟨rfl, -⟩
    exact other (by decide)
  · rintro rfl
    exact other (by decide)

theorem allConform_comment {attached : List Attribute} :
    ∀ c ∈ l.comment attached, AllConform c := by
  intro c present
  simp only [comment] at present
  split at present
  · cases present
    exact allConform_plain (.cons .nil) (by decide) nofun nofun
  · cases present

theorem allConform_otherAttributes {attached : List Attribute} :
    ∀ c ∈ l.otherAttributes attached, AllConform c := by
  intro c present
  obtain ⟨a, _, rfl⟩ := List.mem_map.mp present
  exact allConform_plain (.cons (.cons (.cons .nil))) (by decide) nofun nofun

theorem allConform_attributed {attached : List Attribute} (declares : Declares attributes names)
    (fits : Fits false typeName
      (names ++ ("comment" :: singular.map Prod.fst ++ "attributes" :: lists.map Prod.fst)))
    (slots : ∀ slot ∈ singular, ∀ c ∈ slot.2, AllConform c)
    (items : ∀ list ∈ lists, ∀ c ∈ list.2, AllConform c) :
    AllConform (l.attributed typeName extent attached attributes singular lists) := by
  refine allConform_plain declares fits ?_ ?_
  · exact List.forall_mem_cons.mpr ⟨allConform_comment, slots⟩
  · exact List.forall_mem_cons.mpr ⟨allConform_otherAttributes, items⟩

theorem allConform_name {src : List Char} (word : Word src) : AllConform (l.name word) :=
  allConform_plain (.cons .nil) (by decide) nofun nofun

theorem allConform_verbatim (fits : Fits false typeName ["tokens"]) :
    AllConform (l.verbatim typeName extent) :=
  allConform_plain (.cons .nil) fits nofun nofun

theorem name_eq_str_iff (kind : LiteralKind) : kind.name = "str" ↔ kind = .str := by
  cases kind <;> decide

theorem allConform_literal (kind : LiteralKind) (value : String) :
    AllConform (l.literal extent kind value) := by
  obtain ⟨coordinates, text, same⟩ := l.info_eq "ExprLit" (Piece.spanOf extent)
    [("kind", kind.name), ("value", value)]
  have fits : Fits true "ExprLit" ["kind", "value"] := by decide
  have other : "ExprLit" ≠ "ExprStruct" := by decide
  -- the flag is set from the kind, and the kind is written as the attribute
  have flag : (kind == .str) = true ↔ "ExprLit" = "ExprLit" ∧ some kind.name = some "str" := by
    rw [beq_iff_eq, and_iff_right rfl, Option.some_inj, name_eq_str_iff]
  rw [literal, same]
  exact allConform_of_fits (.cons (.cons .nil)) fits flag (iff_of_false nofun other) nofun nofun

theorem allConform_structLiteral {path : Extent} {rest : Option Node} {fields : List Node}
    (base : ∀ c ∈ rest, AllConform c) (items : ∀ c ∈ fields, AllConform c) :
    AllConform (l.structLiteral extent path typeName rest fields) := by
  obtain ⟨coordinates, text, same⟩ := l.info_eq "ExprStruct" (Piece.spanOf extent)
    [("path", Lowering.text path)]
  have fits : Fits true "ExprStruct" ["path", "rest", "fields"] := by decide
  have other : "ExprStruct" ≠ "ExprLit" := by decide
  rw [structLiteral, same]
  exact allConform_of_fits (.cons .nil) fits (iff_of_false nofun fun both => other both.1)
    (iff_of_true rfl rfl) (List.forall_mem_singleton.mpr base)
    (List.forall_mem_singleton.mpr items)

/-! ## All syntax -/

/-- All nodes of syntax conform. -/
theorem allConform_lower {src : List Char} {c : Category} {s : Shape} (l : Lowering)
    (part : Ast src c s) : s.Each AllConform (l.lower part) := by
  have onName (word : Word src) : AllConform (l.name word) := allConform_name word
  have onTree (tree : Extent) : AllConform (l.verbatim "UseTree" tree) :=
    allConform_verbatim (by decide)
  induction part with
  | nil => exact List.forall_mem_nil _
  | cons _ _ ihHead ihTail => exact List.forall_mem_cons.mpr ⟨ihHead, ihTail⟩
  | absent => exact nofun
  | present _ ih => exact fun _ same => Option.some_inj.mp same ▸ ih
  -- these stand for what is inside
  | typeGroup _ ih | argumentType _ ih | exprGroup _ ih | stmtItem _ ih | stmtExpression _ ih
  | itemFunction _ ih | implFunction _ ih | traitFunction _ ih => exact ih
  | exprLiteral | patLiteral => exact allConform_literal _ _
  | exprStruct _ _ _ _ _ ihRest ihFields => exact allConform_structLiteral ihRest ihFields
  | argumentLifetime | argumentOther | argumentParenthesized | patRange | patVerbatim | itemVerbatim
  | implVerbatim | traitVerbatim => exact allConform_verbatim (by decide)
  -- the type name of these is chosen by a word of their own
  | typeVerbatim kind =>
    apply allConform_verbatim
    cases kind <;> decide
  | function role =>
    apply allConform_attributed
    case declares => repeat constructor
    case fits => cases role <;> (simp only [List.map_cons, List.map_nil]; decide)
    case slots => simp_all
    case items => simp_all
  -- each kind has names of its own that fit, and what is in its slots conforms by induction
  | typePath | typeReference | typeTuple | typeArray | typeSlice | typePointer | typeParen
  | segment | fieldValue | patName | patTyped | patTuple | patTupleStruct | patStruct
  | patReference | patWild | patPath | patOr | patSlice | patRest | fieldPat | block | stmtEffect
  | paramReceiver | paramTyped | genericType | genericLifetime | genericConst =>
    apply allConform_plain
    case declares => repeat constructor
    case fits => simp only [List.map_cons, List.map_nil]; decide
    case slots => simp_all
    case items => simp_all
  | exprPath | exprBinary | exprUnary | exprCall | exprMethodCall | exprField | exprIndex
  | exprParen | exprReference | exprCast | exprTuple | exprArray | exprRepeat | exprIf | exprWhile
  | exprFor | exprLoop | exprBlock | exprUnsafe | exprAsync | exprAwait | exprTry | exprReturn
  | exprBreak | exprContinue | exprAssign | exprRange | exprClosure | exprMatch | exprLet
  | exprMacro | exprVerbatim =>
    apply allConform_expression
    case declares => repeat constructor
    case fits => simp only [List.map_cons, List.map_nil]; decide
    case other => decide
    case slots => simp_all
    case items => simp_all
  | arm | stmtLet | stmtMacro | field | variant | itemStruct | itemEnum | itemUse | itemConst
  | itemStatic | itemModule | itemImpl | itemTrait | itemType | itemMacro | implConst | implType
  | traitConst | traitType =>
    apply allConform_attributed
    case declares => repeat constructor
    case fits => simp only [List.map_cons, List.map_nil]; decide
    case slots => simp_all
    case items => simp_all

end Lowering

/-! ## What follows for the formats -/

namespace Text

/-- The letters and underscores of a name are no digits. -/
theorem not_isDigit_of_isName {name : String} (plain : isName name = true) :
    ∀ c ∈ name.toList, c.isDigit = false := by
  unfold isName at plain
  split at plain
  · cases plain
  · next first rest spelled =>
    rw [Bool.and_eq_true, List.all_eq_true] at plain
    have letter {c : Char} (isAlpha : c.isAlpha = true) : c.isDigit = false := by
      delta Char.isAlpha Char.isUpper Char.isLower at isAlpha
      delta Char.isDigit
      grind
    rw [spelled]
    refine List.forall_mem_cons.mpr ⟨letter plain.1, fun c later => ?_⟩
    rcases Bool.or_eq_true_iff.mp (plain.2 c later) with isAlpha | underscore
    · exact letter isAlpha
    · rw [beq_iff_eq.mp underscore]
      decide

/-- A text without digits is no letter followed by digits. -/
theorem not_looksNumbered {name : String} (plain : ∀ c ∈ name.toList, c.isDigit = false) :
    Session.looksNumbered name = false := by
  unfold Session.looksNumbered
  split
  · next d ds spelled =>
    have second : d.isDigit = false := plain d (by simp [spelled])
    rw [List.all_cons, second, Bool.false_and]
  · rfl

theorem ne_append_toString {name : String} (plain : ∀ c ∈ name.toList, c.isDigit = false)
    (letter : String) (k : Nat) : name ≠ letter ++ toString k := by
  rintro rfl
  have spelled : Nat.toDigits 10 k ≠ [] := Nat.toDigits_ne_nil
  obtain ⟨d, digit⟩ := List.exists_mem_of_ne_nil _ spelled
  have present : d ∈ (letter ++ toString k).toList := by
    rw [String.toList_append, Decimal.toList_toString]
    exact List.mem_append_right _ digit
  have isDigit := Decimal.isDigit_of_mem_toDigits k d digit
  rw [plain d present] at isDigit
  cases isDigit

theorem toList_singularize (name : String) : (singularize name).toList <+: name.toList := by
  rw [singularize, String.toList_ofList, dropPlural]
  split
  · exact List.dropLast_prefix _
  · exact List.prefix_refl _

end Text

namespace Node

theorem not_reserved {name : String} (isName : Text.isName name = true) : name ∉ reserved := by
  intro taken
  have none : ∀ key ∈ reserved, Text.isName key = false := by decide
  rw [none name taken] at isName
  cases isName

theorem map_fst_ownMembers (types : Bool) (info : NodeInfo) :
    ∃ before after, (before ++ after).Sublist reserved ∧
      (ownMembers types info).map Prod.fst = before ++ (info.attributes.map Prod.fst ++ after) := by
  refine ⟨if types then ["_type"] else [],
    (if info.coordinates.isSome then ["_start_line", "_start_column", "_end_line", "_end_column"]
      else []) ++ if info.constructedType.isSome then ["_typeNameString"] else [], ?_, ?_⟩
  · cases types <;> cases info.coordinates.isSome <;> cases info.constructedType.isSome <;> decide
  · cases types <;> cases coordinates : info.coordinates <;> cases type : info.constructedType <;>
      simp [ownMembers, coordinates, type, Function.comp_def]

theorem map_fst_singularMembers (types : Bool) (singular : List (String × Option Node)) :
    ((singularMembers types singular).map Prod.fst).Sublist (singular.map Prod.fst) := by
  induction singular with
  | nil => exact List.Sublist.refl _
  | cons slot rest ih =>
    obtain ⟨name, held⟩ := slot
    cases held with
    | none => exact ih.cons _
    | some n => exact ih.cons_cons _

theorem map_fst_listMembers (types : Bool) (lists : List (String × List Node)) :
    ((listMembers types lists).map Prod.fst).Sublist (lists.map Prod.fst) := by
  induction lists with
  | nil => exact List.Sublist.refl _
  | cons list rest ih =>
    obtain ⟨name, items⟩ := list
    rw [listMembers]
    split
    · exact ih.cons _
    · exact ih.cons_cons _

/-- The object of a node that conforms has no key twice. -/
theorem Conforms.nodup_members {n : Node} (conforms : n.Conforms) (types : Bool) :
    ∃ members, n.jsonValue types = .object members ∧ (members.map Prod.fst).Nodup := by
  obtain ⟨info, singular, lists⟩ := n
  refine ⟨_, rfl, ?_⟩
  obtain ⟨before, after, own, same⟩ := map_fst_ownMembers types info
  have held : ((singularMembers types singular).map Prod.fst ++
      (listMembers types lists).map Prod.fst).Sublist
        (singular.map Prod.fst ++ lists.map Prod.fst) :=
    (map_fst_singularMembers types singular).append (map_fst_listMembers types lists)
  have written := (List.Sublist.refl (info.attributes.map Prod.fst)).append held
  -- the keys the format takes stand before and after the attributes: they are put together
  have sorted : (before ++ after ++ (info.attributes.map Prod.fst ++
      ((singularMembers types singular).map Prod.fst ++
        (listMembers types lists).map Prod.fst))).Nodup := by
    refine List.Nodup.append (List.Nodup.sublist own (by decide))
      (conforms.distinct.sublist written) fun key taken free => ?_
    exact not_reserved (conforms.keys key (written.subset free)) (own.subset taken)
  refine List.Perm.nodup ?_ sorted
  rw [List.map_append, List.map_append, same]
  simp only [List.append_assoc]
  exact List.Perm.append_left before (List.perm_append_comm_assoc ..)

/-- Children stand under a name of a slot or under one without its plural ending. -/
theorem exists_key_of_mem_slotNames {n : Node} {name : String} (present : name ∈ n.slotNames) :
    ∃ key ∈ n.keys, name.toList <+: key.toList := by
  rw [slotNames, List.mem_append, List.mem_map, List.mem_map] at present
  rcases present with ⟨slot, present, rfl⟩ | ⟨list, present, rfl⟩
  · have key : slot.1 ∈ n.keys :=
      List.mem_append_right _ (List.mem_append_left _ (List.mem_map_of_mem present))
    exact ⟨slot.1, key, List.prefix_refl _⟩
  · have key : list.1 ∈ n.keys :=
      List.mem_append_right _ (List.mem_append_right _ (List.mem_map_of_mem present))
    exact ⟨list.1, key, Text.toList_singularize list.1⟩

/-- No key of a node that conforms and no name its children stand under is an identifier. -/
theorem Conforms.unnumbered {n : Node} (conforms : n.Conforms) :
    ∀ name ∈ n.keys ++ n.slotNames, Session.looksNumbered name = false ∧
      ∀ s : Session, name ≠ s.nextNode.1 ∧ name ≠ s.nextEdge.1 := by
  have onKeys {key : String} (present : key ∈ n.keys) : ∀ c ∈ key.toList, c.isDigit = false :=
    Text.not_isDigit_of_isName (conforms.keys key present)
  intro name present
  have plain : ∀ c ∈ name.toList, c.isDigit = false := by
    rcases List.mem_append.mp present with isKey | isSlot
    · exact onKeys isKey
    · obtain ⟨key, isKey, beginning⟩ := exists_key_of_mem_slotNames isSlot
      exact fun c kept => onKeys isKey c (beginning.subset kept)
  exact ⟨Text.not_looksNumbered plain, fun s =>
    ⟨Text.ne_append_toString plain "n" s.nodes, Text.ne_append_toString plain "e" s.edges⟩⟩

/-- What the formats rely on in a node: it conforms, no key of it is reserved or looks like an
identifier, and its object has no key twice. -/
structure Exportable (n : Node) : Prop where
  conforms : n.Conforms
  free : ∀ key ∈ n.keys, key ∉ reserved
  unnumbered : ∀ name ∈ n.keys ++ n.slotNames, Session.looksNumbered name = false ∧
    ∀ s : Session, name ≠ s.nextNode.1 ∧ name ≠ s.nextEdge.1
  members : ∀ types, ∃ members, n.jsonValue types = .object members ∧
    (members.map Prod.fst).Nodup

theorem Conforms.exportable {n : Node} (conforms : n.Conforms) : n.Exportable :=
  ⟨conforms, fun key present => not_reserved (conforms.keys key present), conforms.unnumbered,
    conforms.nodup_members⟩

end Node

/-! ## Files and source texts -/

open Node

theorem Lowering.allConform_file {src : List Char} (l : Lowering) (f : SourceFile src) :
    AllConform (l.file f) := by
  refine allConform_attributed .last ?_ nofun ?_
  · simp only [List.map_cons, List.map_nil]
    decide
  · exact List.forall_mem_singleton.mpr (l.allConform_lower f.items)

theorem Source.exists_file_of_parse {text : String} {root : Node} (parsed : parse text = .ok root) :
    ∃ (src : List Char) (l : Lowering) (f : SourceFile src), root = l.file f := by
  simp only [parse] at parsed
  split at parsed
  · cases parsed
  · next f _ =>
    cases parsed
    exact ⟨_, _, f, rfl⟩

/-- Every node of a file, and so of every source text that can be read, has what the formats rely
on. -/
theorem lowered_schema :
    (∀ (src : List Char) (l : Lowering) (f : SourceFile src), ∀ n ∈ (l.file f).preorder,
      n.Exportable) ∧
    ∀ (text : String) (root : Node), Source.parse text = .ok root → ∀ n ∈ root.preorder,
      n.Exportable := by
  have onFile (src : List Char) (l : Lowering) (f : SourceFile src) :
      ∀ n ∈ (l.file f).preorder, n.Exportable := fun n inside =>
    (l.allConform_file f n inside).exportable
  refine ⟨onFile, fun text root parsed => ?_⟩
  obtain ⟨src, l, f, rfl⟩ := Source.exists_file_of_parse parsed
  exact onFile src l f

/-- A constant whose value is a struct literal with a string in a field. -/
theorem lowered_schema_struct_literal :
    let word : Word ['A'] := ⟨"A", ⟨⟨1, 0⟩, ⟨1, 1⟩⟩, [], [], rfl, rfl, rfl⟩
    let text : Expr ['A'] := .exprLiteral [] .str "s"
    let field : Ast ['A'] .fieldValue .one := .fieldValue [] [] text
    let value : Expr ['A'] := .exprStruct [] [] word .absent (.cons field .nil)
    let item : Item ['A'] := .itemConst [] [] [] word (.typeVerbatim .inferred []) value
    let file : SourceFile ['A'] := ⟨[], none, [], .cons item .nil⟩
    let l := Lowering.ofSource "A"
    (l.lower value ∈ (l.file file).preorder ∧ (l.lower value).Exportable) ∧
      l.lower text ∈ (l.file file).preorder ∧ (l.lower text).Exportable := by
  intro word text field value item file l
  have ofItem : (l.file file).children[0]? = some (l.lower item) := rfl
  have ofValue : (l.lower item).children[2]? = some (l.lower value) := rfl
  have ofField : (l.lower value).children[0]? = some (l.lower field) := rfl
  have ofText : (l.lower field).children[0]? = some (l.lower text) := rfl
  have onValue {n : Node} (inside : n ∈ (l.lower value).preorder) : n ∈ (l.file file).preorder :=
    mem_preorder_of_getElem? ofItem (mem_preorder_of_getElem? ofValue inside)
  have outer : l.lower value ∈ (l.file file).preorder := onValue (mem_preorder_self _)
  have inner : l.lower text ∈ (l.file file).preorder :=
    onValue (mem_preorder_of_getElem? ofField (mem_preorder_of_getElem? ofText
      (mem_preorder_self _)))
  have every := lowered_schema.1 ['A'] l file
  exact ⟨⟨outer, every _ outer⟩, inner, every _ inner⟩

end SyntaxExport
