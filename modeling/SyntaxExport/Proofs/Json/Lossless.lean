import SyntaxExport.Proofs.Condensed
import SyntaxExport.Proofs.Json.Document

/-!
# Nothing is lost in object notation

A node's own entries, its children and its lists are members of one object. Texts, numbers, objects
and arrays are told apart by their values, and within each sort the order of the members is that of
the tree; only the constructed type needs its key, since attributes are texts too. So the value of a
tree can be read back, by `Json.Value.tree`, from the members of each sort alone.

A document with control characters is no JSON. It is still read in one way only if every character
but the quote and the backslash may stand for itself, as `Unescaped` says, and then no text is left
that cannot be read.

Results:
1. `tree_jsonValue`: the value of a tree gives the condensed tree back.
2. `jsonValue_eq_of_run_eq`: equal documents have equal values, whatever characters they hold.
3. `piece_condensed`: the document depends on the condensed tree alone.
4. `json_run_eq_iff`: two documents are equal exactly if the condensed trees are.
-/

namespace SyntaxExport

open Json Encoder

/-! ## Reading a value back -/

namespace Json.Value

/-- The text that a value is. -/
def text? : Value → Option String
  | text s => some s
  | _ => none

/-- The number that a value is, as a count. -/
def number? : Value → Option Nat
  | number q => some q.num.toNat
  | _ => none

/-- The value is an object. -/
def isObject : Value → Bool
  | object _ => true
  | _ => false

/-- The value is an array. -/
def isArray : Value → Bool
  | array _ => true
  | _ => false

/-- The members that are texts. -/
def texts (members : List (String × Value)) : List (String × String) :=
  members.filterMap fun member => member.2.text?.map (member.1, ·)

/-- The numbers among the members. -/
def numbers (members : List (String × Value)) : List Nat :=
  members.filterMap fun member => member.2.number?

/-- Coordinates are four numbers. -/
def coordinates? : List Nat → Option Coordinates
  | [startLine, startColumn, endLine, endColumn] =>
      some ⟨startLine, startColumn, endLine, endColumn⟩
  | _ => none

/-- What the members say about a node: the first text is its type name, and the key of the
constructed type tells it from the attributes. -/
def ownInfo (members : List (String × Value)) : NodeInfo where
  typeName := ((texts members).head?.map Prod.snd).getD ""
  attributes := (texts members).tail.filter (·.1 ≠ "_typeNameString")
  coordinates := coordinates? (numbers members)
  constructedType := (texts members).tail.lookup "_typeNameString"

mutual

/-- The tree that a value stands for. -/
def tree : Value → Node
  | object members => .mk (ownInfo members) (slots members) (lists members)
  | _ => .mk { typeName := "" } [] []

/-- The members that are objects, as single slots. -/
def slots : List (String × Value) → List (String × Option Node)
  | [] => []
  | (name, value) :: rest =>
      if value.isObject then (name, some (tree value)) :: slots rest else slots rest

/-- The members that are arrays, as lists. -/
def lists : List (String × Value) → List (String × List Node)
  | [] => []
  | (name, value) :: rest =>
      if value.isArray then (name, items value) :: lists rest else lists rest

/-- The items of an array. -/
def items : Value → List Node
  | array values => trees values
  | _ => []

/-- The trees that values stand for. -/
def trees : List Value → List Node
  | [] => []
  | value :: rest => tree value :: trees rest

end

theorem slots_eq (members : List (String × Value)) :
    slots members = members.filterMap fun member =>
      if member.2.isObject then some (member.1, some (tree member.2)) else none := by
  induction members with
  | nil => rw [slots, List.filterMap_nil]
  | cons member rest ih =>
    obtain ⟨name, value⟩ := member
    rw [slots, ih, List.filterMap_cons]
    split <;> rfl

theorem lists_eq (members : List (String × Value)) :
    lists members = members.filterMap fun member =>
      if member.2.isArray then some (member.1, items member.2) else none := by
  induction members with
  | nil => rw [lists, List.filterMap_nil]
  | cons member rest ih =>
    obtain ⟨name, value⟩ := member
    rw [lists, ih, List.filterMap_cons]
    split <;> rfl

end Json.Value

/-! ## The members of a tree -/

namespace Node

open Json.Value

/-- A node's own members are neither objects nor arrays. -/
theorem scalar_of_mem {types : Bool} {info : NodeInfo} {member : String × Value}
    (present : member ∈ ownMembers types info) :
    member.2.isObject = false ∧ member.2.isArray = false := by
  simp only [ownMembers, List.mem_append, List.mem_map] at present
  rcases present with ((present | ⟨a, -, rfl⟩) | present) | present
  · split at present
    · rw [List.mem_singleton.mp present]
      exact ⟨rfl, rfl⟩
    · cases present
  · exact ⟨rfl, rfl⟩
  · cases coordinates : info.coordinates with
    | none => simp [coordinates] at present
    | some c =>
      simp only [coordinates, Option.map_some, Option.getD_some, List.mem_cons,
        List.not_mem_nil, or_false] at present
      rcases present with rfl | rfl | rfl | rfl <;> exact ⟨rfl, rfl⟩
  · obtain ⟨t, -, rfl⟩ := Option.map_eq_some_iff.mp (Option.mem_toList.mp present)
    exact ⟨rfl, rfl⟩

/-- No attribute of the tree has the key of the constructed type. -/
def TypeKeyUnused (n : Node) : Prop :=
  ∀ m ∈ n.preorder, ∀ a ∈ m.attributes, a.1 ≠ "_typeNameString"

theorem TypeKeyUnused.own {n : Node} (unused : n.TypeKeyUnused) :
    ∀ a ∈ n.attributes, a.1 ≠ "_typeNameString" :=
  unused n (mem_preorder_iff.mpr (.inl rfl))

theorem TypeKeyUnused.child {n c : Node} (unused : n.TypeKeyUnused) (child : c ∈ n.children) :
    c.TypeKeyUnused := fun m inside =>
  unused m (mem_preorder_iff.mpr (.inr ⟨c, child, inside⟩))

theorem exists_object_of_mem {types : Bool} {singular : List (String × Option Node)} :
    ∀ member ∈ singularMembers types singular, ∃ members, member.2 = .object members := by
  induction singular with
  | nil => simp [singularMembers]
  | cons slot rest ih =>
    obtain ⟨name, _ | n⟩ := slot
    · rw [singularMembers]
      exact ih
    · obtain ⟨info, singular, lists⟩ := n
      rw [singularMembers, List.forall_mem_cons]
      exact ⟨⟨_, by rw [jsonValue]⟩, ih⟩

theorem exists_array_of_mem {types : Bool} {lists : List (String × List Node)} :
    ∀ member ∈ listMembers types lists, ∃ values, member.2 = .array values := by
  induction lists with
  | nil => simp [listMembers]
  | cons list rest ih =>
    obtain ⟨name, items⟩ := list
    rw [listMembers]
    split
    · exact ih
    · exact List.forall_mem_cons.mpr ⟨⟨_, rfl⟩, ih⟩

section Members

variable (info : NodeInfo) (singular : List (String × Option Node))
  (lists : List (String × List Node))

/-- The members of a node's object. -/
def members : List (String × Value) :=
  ownMembers true info ++ singularMembers true singular ++ listMembers true lists

/-- What is taken from texts and numbers alone is taken from a node's own members. -/
theorem filterMap_members {α : Type} {f : String × Value → Option α}
    (objects : ∀ name members, f (name, .object members) = none)
    (arrays : ∀ name values, f (name, .array values) = none) :
    (members info singular lists).filterMap f = (ownMembers true info).filterMap f := by
  have slots : (singularMembers true singular).filterMap f = [] := by
    refine List.filterMap_eq_nil_iff.mpr fun ⟨name, value⟩ present => ?_
    obtain ⟨members, rfl⟩ : ∃ members, value = .object members := exists_object_of_mem _ present
    exact objects name members
  have items : (listMembers true lists).filterMap f = [] := by
    refine List.filterMap_eq_nil_iff.mpr fun ⟨name, value⟩ present => ?_
    obtain ⟨values, rfl⟩ : ∃ values, value = .array values := exists_array_of_mem _ present
    exact arrays name values
  rw [members, List.filterMap_append, List.filterMap_append, slots, items, List.append_nil,
    List.append_nil]

theorem texts_members : texts (members info singular lists) =
    ("_type", info.typeName) ::
      (info.attributes ++ (info.constructedType.map ("_typeNameString", ·)).toList) := by
  rw [texts, filterMap_members info singular lists (fun _ _ => rfl) fun _ _ => rfl]
  cases coordinates : info.coordinates <;> cases type : info.constructedType <;>
    simp [ownMembers, coordinates, type, text?, List.filterMap_map]

theorem numbers_members : numbers (members info singular lists) =
    (info.coordinates.map fun c =>
      [c.startLine, c.startColumn, c.endLine, c.endColumn]).getD [] := by
  rw [numbers, filterMap_members info singular lists (fun _ _ => rfl) fun _ _ => rfl]
  cases coordinates : info.coordinates <;> cases type : info.constructedType <;>
    simp [ownMembers, coordinates, type, number?, List.filterMap_map]

theorem ownInfo_members (free : ∀ a ∈ info.attributes, a.1 ≠ "_typeNameString") :
    ownInfo (members info singular lists) = info.written := by
  have others : info.attributes.filter (·.1 ≠ "_typeNameString") = info.attributes :=
    List.filter_eq_self.mpr fun a present => decide_eq_true (free a present)
  have unlisted : info.attributes.lookup "_typeNameString" = none :=
    List.lookup_eq_none_iff.mpr fun a present => bne_iff_ne.mpr (free a present).symm
  have four : coordinates? ((info.coordinates.map fun c =>
      [c.startLine, c.startColumn, c.endLine, c.endColumn]).getD []) = info.coordinates := by
    cases info.coordinates <;> rfl
  rw [ownInfo, texts_members, numbers_members, four, List.tail_cons, List.filter_append, others,
    List.lookup_append, unlisted]
  cases type : info.constructedType <;> simp [NodeInfo.written, type]

/-- The objects among the members are those of the single slots. -/
theorem slots_members : slots (members info singular lists) =
    slots (singularMembers true singular) := by
  have own : slots (ownMembers true info) = [] := by
    rw [slots_eq, List.filterMap_eq_nil_iff]
    intro member present
    rw [(scalar_of_mem present).1, if_neg Bool.false_ne_true]
  have items : slots (listMembers true lists) = [] := by
    rw [slots_eq, List.filterMap_eq_nil_iff]
    intro member present
    obtain ⟨values, array⟩ := exists_array_of_mem member present
    rw [array]
    rfl
  rw [slots_eq] at own items
  rw [slots_eq, slots_eq, members, List.filterMap_append, List.filterMap_append, own, items,
    List.nil_append, List.append_nil]

/-- The arrays among the members are those of the lists. -/
theorem lists_members : Json.Value.lists (members info singular lists) =
    Json.Value.lists (listMembers true lists) := by
  have own : Json.Value.lists (ownMembers true info) = [] := by
    rw [lists_eq, List.filterMap_eq_nil_iff]
    intro member present
    rw [(scalar_of_mem present).2, if_neg Bool.false_ne_true]
  have slots : Json.Value.lists (singularMembers true singular) = [] := by
    rw [lists_eq, List.filterMap_eq_nil_iff]
    intro member present
    obtain ⟨members, object⟩ := exists_object_of_mem member present
    rw [object]
    rfl
  rw [lists_eq] at own slots
  rw [lists_eq, lists_eq, members, List.filterMap_append, List.filterMap_append, own, slots,
    List.nil_append, List.nil_append]

end Members

/-! ## The tree of a value -/

theorem trees_itemValues {items : List Node}
    (each : ∀ n ∈ items, (n.jsonValue true).tree = n.condensed NodeInfo.written) :
    trees (itemValues true items) = condensedItems NodeInfo.written items := by
  induction items with
  | nil => rw [itemValues, trees, condensedItems]
  | cons n rest ih =>
    rw [List.forall_mem_cons] at each
    rw [itemValues, trees, condensedItems, each.1, ih each.2]

theorem slots_singularMembers {singular : List (String × Option Node)}
    (each : ∀ n ∈ singular.filterMap Prod.snd,
      (n.jsonValue true).tree = n.condensed NodeInfo.written) :
    slots (singularMembers true singular) = condensedSingular NodeInfo.written singular := by
  induction singular with
  | nil => rw [singularMembers, slots, condensedSingular]
  | cons slot rest ih =>
    obtain ⟨name, _ | n⟩ := slot
    · rw [singularMembers, condensedSingular]
      exact ih each
    · obtain ⟨members, object⟩ : ∃ members, n.jsonValue true = .object members := by
        obtain ⟨info, singular, lists⟩ := n
        exact ⟨_, by rw [jsonValue]⟩
      have isObject : (n.jsonValue true).isObject = true := by
        rw [object]
        rfl
      obtain ⟨first, others⟩ := List.forall_mem_cons.mp each
      rw [singularMembers, slots, if_pos isObject, condensedSingular, first, ih others]

theorem lists_listMembers {lists : List (String × List Node)}
    (each : ∀ n ∈ lists.flatMap Prod.snd,
      (n.jsonValue true).tree = n.condensed NodeInfo.written) :
    Json.Value.lists (listMembers true lists) = condensedLists NodeInfo.written lists := by
  induction lists with
  | nil => rw [listMembers, Json.Value.lists, condensedLists]
  | cons list rest ih =>
    obtain ⟨name, held⟩ := list
    rw [List.flatMap_cons, List.forall_mem_append] at each
    rw [listMembers, condensedLists]
    split
    · exact ih each.2
    · rw [Json.Value.lists, if_pos (by rfl), Json.Value.items, trees_itemValues each.1, ih each.2]

/-- The value of a tree gives the tree back, without its empty slots. -/
theorem tree_jsonValue {n : Node} (unused : n.TypeKeyUnused) :
    (n.jsonValue true).tree = n.condensed NodeInfo.written := by
  induction n using children_induction with
  | step n ih =>
    have below : ∀ c ∈ n.children, (c.jsonValue true).tree = c.condensed NodeInfo.written :=
      fun c child => ih c child (unused.child child)
    have own := unused.own
    obtain ⟨info, singular, lists⟩ := n
    rw [children, List.forall_mem_append] at below
    have single : slots (singularMembers true singular) = _ := slots_singularMembers below.1
    have listed : Json.Value.lists (listMembers true lists) = _ := lists_listMembers below.2
    have opened : jsonValue true (mk info singular lists) =
        .object (members info singular lists) := by
      rw [jsonValue, members]
    rw [opened, tree, ownInfo_members info singular lists own, slots_members, lists_members,
      single, listed, condensed]

/-! ## What a document depends on -/

theorem ownPieces_written (plain : Char → Prop) (info : NodeInfo) :
    ownPieces plain true info.written = ownPieces plain true info := rfl

mutual

/-- Empty slots leave no trace in a document, nor do a node's text and the marks of its kind. -/
theorem piece_condensed (plain : Char → Prop) : (n : Node) →
    (n.condensed NodeInfo.written).piece plain true = n.piece plain true
  | mk info singular lists => by
    rw [condensed, piece, piece, ownPieces_written, singularPieces_condensed plain singular,
      listPieces_condensed plain lists]

theorem singularPieces_condensed (plain : Char → Prop) :
    (singular : List (String × Option Node)) →
    singularPieces plain true (condensedSingular NodeInfo.written singular) =
      singularPieces plain true singular
  | [] => by rw [condensedSingular]
  | (_, none) :: rest => by
    rw [condensedSingular, singularPieces, singularPieces_condensed plain rest]
  | (slot, some n) :: rest => by
    rw [condensedSingular, singularPieces, singularPieces, piece_condensed plain n,
      singularPieces_condensed plain rest]

theorem listPieces_condensed (plain : Char → Prop) : (lists : List (String × List Node)) →
    listPieces plain true (condensedLists NodeInfo.written lists) = listPieces plain true lists
  | [] => by rw [condensedLists]
  | (_, []) :: rest => by
    rw [condensedLists, if_pos (by rfl), listPieces, if_pos (by rfl),
      listPieces_condensed plain rest]
  | (slot, n :: items) :: rest => by
    have filled : (condensedItems NodeInfo.written (n :: items)).isEmpty = false := by
      rw [condensedItems]
      rfl
    rw [condensedLists, if_neg (by simp), listPieces, if_neg (by simp [filled]), listPieces,
      if_neg (by simp), itemPieces_condensed plain (n :: items), listPieces_condensed plain rest]

theorem itemPieces_condensed (plain : Char → Prop) : (items : List Node) →
    itemPieces plain true (condensedItems NodeInfo.written items) = itemPieces plain true items
  | [] => by rw [condensedItems]
  | n :: rest => by
    rw [condensedItems, itemPieces, itemPieces, piece_condensed plain n,
      itemPieces_condensed plain rest]

end

end Node

/-! ## Documents -/

/-- The characters that quoting leaves as they are, and the line breaks. -/
def Unescaped (c : Char) : Prop :=
  c ≠ '"' ∧ c ≠ '\\'

theorem readable_unescaped (s : String) : Readable Unescaped s := by
  intro c _
  by_cases special : c = '"' ∨ c = '\\'
  · rcases special with rfl | rfl <;> simp
  · exact .inl (not_or.mp special)

/-- Equal documents have equal values, whatever characters their texts hold. -/
theorem jsonValue_eq_of_run_eq {types : Bool} {a b : Node}
    (same : (json types).run .empty a = (json types).run .empty b) :
    a.jsonValue types = b.jsonValue types := by
  have sole (n : Node) : Sole (Reads Unescaped) (n.piece Unescaped types) :=
    n.sole_piece types (fun standing => standing.1 rfl) fun standing => standing.2 rfl
  have ok : (a.piece Unescaped types).ok :=
    (Node.ok_piece_iff_of_keys types (fun key _ => readable_unescaped key) a).mpr
      fun _ _ s _ => readable_unescaped s
  rw [Encoder.Json.run_eq Unescaped, Encoder.Json.run_eq Unescaped, String.ofList_inj] at same
  -- the text of the one is read as the value of the one, and can only be read as that of the other
  have read := (sole a).reads ok []
  rw [same] at read
  obtain ⟨-, equal, -⟩ := (sole b).only ends_nil ends_nil read
  rwa [Node.value_piece, Node.value_piece] at equal

/-- Two documents with type names are equal exactly if the trees are equal but for empty slots, the
texts of nodes and the marks of their kinds, provided no attribute has the key of the constructed
type. -/
theorem json_run_eq_iff {a b : Node} (unusedA : a.TypeKeyUnused) (unusedB : b.TypeKeyUnused) :
    (json true).run .empty a = (json true).run .empty b ↔
      a.condensed NodeInfo.written = b.condensed NodeInfo.written := by
  constructor
  · intro same
    have values := congrArg Json.Value.tree (jsonValue_eq_of_run_eq same)
    rwa [Node.tree_jsonValue unusedA, Node.tree_jsonValue unusedB] at values
  · intro same
    have pieces := congrArg (Node.piece Unescaped true) same
    rw [Node.piece_condensed, Node.piece_condensed] at pieces
    rw [Encoder.Json.run_eq Unescaped, Encoder.Json.run_eq Unescaped, pieces]

-- an attribute with that key cannot be told from the constructed type
example :
    (json true).run .empty
        (.mk { typeName := "T", attributes := [("_typeNameString", "P")] } [] []) =
      (json true).run .empty (.mk { typeName := "T", constructedType := some "P" } [] []) := rfl

/-- A child in a single slot and a list of one item under the same name, beside a value with a
control character and a quote. -/
theorem json_run_eq_iff_slot_or_list :
    let leaf : Node := .mk { typeName := "Leaf" } [] []
    let info : NodeInfo := { typeName := "Top", attributes := [("text", "\x01\"")] }
    let a : Node := .mk info [("x", none), ("part", some leaf)] []
    let b : Node := .mk info [] [("part", [leaf])]
    a.TypeKeyUnused ∧ b.TypeKeyUnused ∧ (json true).run .empty a ≠ (json true).run .empty b := by
  intro leaf info a b
  have unusedA : a.TypeKeyUnused := by
    simp [Node.TypeKeyUnused, Node.preorder_eq, Node.children, a, info, leaf, Node.singular,
      Node.lists, Node.attributes, Node.info]
  have unusedB : b.TypeKeyUnused := by
    simp [Node.TypeKeyUnused, Node.preorder_eq, Node.children, b, info, leaf, Node.singular,
      Node.lists, Node.attributes, Node.info]
  refine ⟨unusedA, unusedB, fun same => ?_⟩
  have condensed := (json_run_eq_iff unusedA unusedB).mp same
  have slots := congrArg (fun n => n.singular.length) condensed
  cases slots

end SyntaxExport
