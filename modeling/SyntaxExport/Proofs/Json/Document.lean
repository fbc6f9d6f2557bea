import SyntaxExport.Encoder.Json
import SyntaxExport.Proofs.Json.Reading
import SyntaxExport.Proofs.Preorder

/-!
# Documents in object notation

The encoder writes brackets, keys and commas in steps that do not know of each other; a stack of
frames tells each step what is due. `walk_eq` says what a whole walk over a node writes, whatever is
open around it: the separator and the key that are due, then the object of the node, and all frames
of the node are closed again. So the document is the text of one piece, `Node.piece`.

Results:
1. `walk_eq`: what a walk writes.
2. `sole_piece`: the object of a node is read in one way only.
3. `json_run_valid_iff`: the document of a tree is JSON exactly if no control character other than a
   line feed or a carriage return is written, and then it is read as the value of the tree.
-/

namespace SyntaxExport

open Json Encoder

/-! ## The value of a tree -/

namespace Node

/-- The members that a node has of its own: its type name, its attributes, its coordinates and the
type it constructs. -/
def ownMembers (types : Bool) (info : NodeInfo) : List (String × Value) :=
  (if types then [("_type", .text info.typeName)] else []) ++
    info.attributes.map (fun a => (a.1, .text a.2)) ++
    (info.coordinates.map fun c =>
      [("_start_line", .number c.startLine), ("_start_column", .number c.startColumn),
        ("_end_line", .number c.endLine), ("_end_column", .number c.endColumn)]).getD [] ++
    (info.constructedType.map fun t => ("_typeNameString", .text t)).toList

mutual

/-- The value of a tree: an object with the node's own members, then its children under the names of
their slots, and each list that is not empty as an array under the name of the list. -/
def jsonValue (types : Bool) : Node → Value
  | mk info singular lists =>
      .object (ownMembers types info ++ singularMembers types singular ++ listMembers types lists)

/-- The members of the single slots that are not empty. -/
def singularMembers (types : Bool) : List (String × Option Node) → List (String × Value)
  | [] => []
  | (_, none) :: rest => singularMembers types rest
  | (slot, some n) :: rest => (slot, jsonValue types n) :: singularMembers types rest

/-- The members of the lists that are not empty. -/
def listMembers (types : Bool) : List (String × List Node) → List (String × Value)
  | [] => []
  | (slot, items) :: rest =>
      if items.isEmpty then listMembers types rest
      else (slot, .array (itemValues types items)) :: listMembers types rest

/-- The values of the items of a list. -/
def itemValues (types : Bool) : List Node → List Value
  | [] => []
  | n :: rest => jsonValue types n :: itemValues types rest

end

/-- The texts that are written of a node itself: its type name if it is asked for, the names and
values of its attributes, the type it constructs, and the names of its slots that are not empty. -/
def ownTexts (types : Bool) (n : Node) : List String :=
  (if types then [n.typeName] else []) ++ n.attributes.flatMap (fun a => [a.1, a.2]) ++
    n.info.constructedType.toList ++ (n.singular.filter (·.2.isSome)).map Prod.fst ++
    (n.lists.filter (!·.2.isEmpty)).map Prod.fst

end Node

/-- The text has no control character other than line feeds and carriage returns. -/
def Printable (s : String) : Prop :=
  ∀ c ∈ s.toList, c.toNat ≤ 0x1F → c = '\n' ∨ c = '\r'

/-! ## Its pieces -/

namespace Node

variable (plain : Char → Prop) (types : Bool)

/-- The pieces of a node's own members. -/
def ownPieces (info : NodeInfo) : List (Json.Piece (String × Value)) :=
  (if types then [.member plain "_type" (.quoted plain info.typeName)] else []) ++
    info.attributes.map (fun a => .member plain a.1 (.quoted plain a.2)) ++
    (info.coordinates.map fun c =>
      [.member plain "_start_line" (.number c.startLine),
        .member plain "_start_column" (.number c.startColumn),
        .member plain "_end_line" (.number c.endLine),
        .member plain "_end_column" (.number c.endColumn)]).getD [] ++
    (info.constructedType.map fun t => .member plain "_typeNameString" (.quoted plain t)).toList

mutual

/-- The object of a node. -/
def piece : Node → Json.Piece Value
  | mk info singular lists =>
      .object (ownPieces plain types info ++ singularPieces singular ++ listPieces lists)

/-- The pieces of single slots. -/
def singularPieces : List (String × Option Node) → List (Json.Piece (String × Value))
  | [] => []
  | (_, none) :: rest => singularPieces rest
  | (slot, some n) :: rest => .member plain slot (piece n) :: singularPieces rest

/-- The pieces of lists. -/
def listPieces : List (String × List Node) → List (Json.Piece (String × Value))
  | [] => []
  | (slot, items) :: rest =>
      if items.isEmpty then listPieces rest
      else .member plain slot (.array (itemPieces items)) :: listPieces rest

/-- The pieces of the items of a list. -/
def itemPieces : List Node → List (Json.Piece Value)
  | [] => []
  | n :: rest => piece n :: itemPieces rest

end

theorem map_value_ownPieces (info : NodeInfo) :
    (ownPieces plain types info).map Json.Piece.value = ownMembers types info := by
  cases types <;> cases coordinates : info.coordinates <;> cases type : info.constructedType <;>
    simp [ownPieces, ownMembers, coordinates, type, Json.Piece.member, Json.Piece.quoted,
      Json.Piece.number]

mutual

theorem value_piece : (n : Node) → (n.piece plain types).value = n.jsonValue types
  | mk info singular lists => by
    rw [piece, jsonValue, Json.Piece.object, List.map_append, List.map_append, map_value_ownPieces,
      map_value_singularPieces singular, map_value_listPieces lists]

theorem map_value_singularPieces : (singular : List (String × Option Node)) →
    (singularPieces plain types singular).map Json.Piece.value = singularMembers types singular
  | [] => rfl
  | (_, none) :: rest => by
    rw [singularPieces, singularMembers, map_value_singularPieces rest]
  | (slot, some n) :: rest => by
    rw [singularPieces, singularMembers, List.map_cons, map_value_singularPieces rest,
      Json.Piece.member, value_piece n]

theorem map_value_listPieces : (lists : List (String × List Node)) →
    (listPieces plain types lists).map Json.Piece.value = listMembers types lists
  | [] => rfl
  | (slot, items) :: rest => by
    rw [listPieces, listMembers]
    split
    · exact map_value_listPieces rest
    · rw [List.map_cons, map_value_listPieces rest, Json.Piece.member, Json.Piece.array,
        map_value_itemPieces items]

theorem map_value_itemPieces : (items : List Node) →
    (itemPieces plain types items).map Json.Piece.value = itemValues types items
  | [] => rfl
  | n :: rest => by
    rw [itemPieces, itemValues, List.map_cons, value_piece n, map_value_itemPieces rest]

end

section Sole

variable {plain : Char → Prop}

theorem sole_ownPieces (quote : ¬ plain '"') (slash : ¬ plain '\\') (info : NodeInfo) :
    ∀ p ∈ ownPieces plain types info, Sole (Member plain (Reads plain)) p := by
  have texts (name text : String) := sole_member quote slash name (sole_text quote slash text)
  have numbers (name : String) (n : Nat) := sole_member quote slash name (sole_number n)
  intro p present
  simp only [ownPieces, List.mem_append, List.mem_map] at present
  rcases present with ((present | ⟨a, -, rfl⟩) | present) | present
  · cases types with
    | false => cases present
    | true =>
      rw [List.mem_singleton.mp present]
      exact texts _ _
  · exact texts _ _
  · cases coordinates : info.coordinates with
    | none => simp [coordinates] at present
    | some c =>
      simp only [coordinates, Option.map_some, Option.getD_some, List.mem_cons,
        List.not_mem_nil, or_false] at present
      rcases present with rfl | rfl | rfl | rfl <;> exact numbers _ _
  · cases type : info.constructedType with
    | none => simp [type] at present
    | some t =>
      simp only [type, Option.map_some, Option.toList_some, List.mem_singleton] at present
      rw [present]
      exact texts _ _

mutual

theorem sole_piece (quote : ¬ plain '"') (slash : ¬ plain '\\') :
    (n : Node) → Sole (Reads plain) (n.piece plain types)
  | mk info singular lists => by
    rw [piece]
    refine sole_object fun p present => ?_
    rw [List.mem_append, List.mem_append] at present
    rcases present with (present | present) | present
    · exact sole_ownPieces types quote slash info p present
    · exact sole_singularPieces quote slash singular p present
    · exact sole_listPieces quote slash lists p present

theorem sole_singularPieces (quote : ¬ plain '"') (slash : ¬ plain '\\') :
    (singular : List (String × Option Node)) →
      ∀ p ∈ singularPieces plain types singular, Sole (Member plain (Reads plain)) p
  | [] => by simp [singularPieces]
  | (_, none) :: rest => by
    rw [singularPieces]
    exact sole_singularPieces quote slash rest
  | (slot, some n) :: rest => by
    rw [singularPieces, List.forall_mem_cons]
    exact ⟨sole_member quote slash slot (sole_piece quote slash n),
      sole_singularPieces quote slash rest⟩

theorem sole_listPieces (quote : ¬ plain '"') (slash : ¬ plain '\\') :
    (lists : List (String × List Node)) →
      ∀ p ∈ listPieces plain types lists, Sole (Member plain (Reads plain)) p
  | [] => by simp [listPieces]
  | (slot, items) :: rest => by
    rw [listPieces]
    split
    · exact sole_listPieces quote slash rest
    · rw [List.forall_mem_cons]
      exact ⟨sole_member quote slash slot (sole_array (sole_itemPieces quote slash items)),
        sole_listPieces quote slash rest⟩

theorem sole_itemPieces (quote : ¬ plain '"') (slash : ¬ plain '\\') :
    (items : List Node) →
      ∀ p ∈ itemPieces plain types items, Sole (Reads plain) p
  | [] => by simp [itemPieces]
  | n :: rest => by
    rw [itemPieces, List.forall_mem_cons]
    exact ⟨sole_piece quote slash n, sole_itemPieces quote slash rest⟩

end

end Sole

/-! ## When the pieces can be read -/

/-- The keys that the format for data takes for itself. -/
def reserved : List String :=
  ["_type", "_start_line", "_start_column", "_end_line", "_end_column", "_typeNameString"]

theorem readable_keys : ∀ key ∈ reserved, Readable Plain key :=
  List.all_iff_forall_prop.mp (by decide)

section Readable

variable {plain : Char → Prop}

theorem ok_ownPieces_iff (keys : ∀ key ∈ reserved, Readable plain key) (info : NodeInfo) :
    (∀ p ∈ ownPieces plain types info, p.ok) ↔
      ((∀ s ∈ if types then [info.typeName] else [], Readable plain s) ∧
        ∀ s ∈ info.attributes.flatMap (fun a => [a.1, a.2]), Readable plain s) ∧
        ∀ s ∈ info.constructedType.toList, Readable plain s := by
  simp only [reserved, List.forall_mem_cons] at keys
  obtain ⟨type, startLine, startColumn, endLine, endColumn, constructed, -⟩ := keys
  have attributes : (∀ p ∈ info.attributes.map (fun a =>
      Json.Piece.member plain a.1 (.quoted plain a.2)), p.ok) ↔
      ∀ s ∈ info.attributes.flatMap (fun a => [a.1, a.2]), Readable plain s := by
    rw [List.forall_mem_map, List.forall_mem_flatMap]
    refine forall₂_congr fun a _ => ?_
    rw [List.forall_mem_cons, List.forall_mem_singleton]
    rfl
  simp only [ownPieces, List.forall_mem_append, attributes]
  cases types <;> cases coordinates : info.coordinates <;> cases known : info.constructedType <;>
    simp [Json.Piece.quoted, Json.Piece.number, type, startLine, startColumn, endLine, endColumn,
      constructed]

theorem ok_itemPieces_iff (items : List Node) :
    (∀ p ∈ itemPieces plain types items, p.ok) ↔ ∀ n ∈ items, (n.piece plain types).ok := by
  induction items with
  | nil => simp [itemPieces]
  | cons n rest ih => rw [itemPieces, List.forall_mem_cons, List.forall_mem_cons, ih]

theorem ok_singularPieces_iff (singular : List (String × Option Node)) :
    (∀ p ∈ singularPieces plain types singular, p.ok) ↔
      (∀ s ∈ (singular.filter (·.2.isSome)).map Prod.fst, Readable plain s) ∧
        ∀ n ∈ singular.filterMap Prod.snd, (n.piece plain types).ok := by
  induction singular with
  | nil => simp [singularPieces]
  | cons slot rest ih =>
    obtain ⟨name, _ | n⟩ := slot
    · simpa [singularPieces] using ih
    · have below : ((name, some n) :: rest).filterMap Prod.snd = n :: rest.filterMap Prod.snd := rfl
      rw [singularPieces, List.forall_mem_cons, ih, Json.Piece.ok_member,
        List.filter_cons_of_pos (by rfl), List.map_cons, List.forall_mem_cons, below,
        List.forall_mem_cons]
      exact and_and_and_comm

theorem ok_listPieces_iff (lists : List (String × List Node)) :
    (∀ p ∈ listPieces plain types lists, p.ok) ↔
      (∀ s ∈ (lists.filter (!·.2.isEmpty)).map Prod.fst, Readable plain s) ∧
        ∀ n ∈ lists.flatMap Prod.snd, (n.piece plain types).ok := by
  induction lists with
  | nil => simp [listPieces]
  | cons slot rest ih =>
    obtain ⟨name, items⟩ := slot
    rw [listPieces, List.flatMap_cons, List.forall_mem_append]
    cases items with
    | nil => simpa using ih
    | cons n items =>
      rw [if_neg (by simp), List.forall_mem_cons, ih, Json.Piece.ok_member, Json.Piece.ok_array,
        ok_itemPieces_iff, List.filter_cons_of_pos (by rfl), List.map_cons,
        List.forall_mem_cons (a := name)]
      exact and_and_and_comm

theorem ok_piece_iff_children (keys : ∀ key ∈ reserved, Readable plain key) (n : Node) :
    (n.piece plain types).ok ↔ (∀ s ∈ n.ownTexts types, Readable plain s) ∧
      ∀ c ∈ n.children, (c.piece plain types).ok := by
  obtain ⟨info, singular, lists⟩ := n
  rw [piece, Json.Piece.ok_object, children]
  simp only [ownTexts, List.forall_mem_append, ok_ownPieces_iff types keys, ok_singularPieces_iff,
    ok_listPieces_iff]
  constructor
  · rintro ⟨⟨own, slots, below⟩, lists, items⟩
    exact ⟨⟨⟨own, slots⟩, lists⟩, below, items⟩
  · rintro ⟨⟨⟨own, slots⟩, lists⟩, below, items⟩
    exact ⟨⟨own, slots, below⟩, lists, items⟩

/-- The object of a tree can be read if all texts that are written of its nodes can. -/
theorem ok_piece_iff_of_keys (keys : ∀ key ∈ reserved, Readable plain key) (n : Node) :
    (n.piece plain types).ok ↔ ∀ m ∈ n.preorder, ∀ s ∈ m.ownTexts types, Readable plain s := by
  induction n using children_induction with
  | step n ih =>
    rw [ok_piece_iff_children types keys, preorder_eq, List.forall_mem_cons,
      List.forall_mem_flatMap]
    exact and_congr_right fun _ => forall₂_congr ih

end Readable

theorem ok_piece_iff (n : Node) :
    (n.piece Plain types).ok ↔ ∀ m ∈ n.preorder, ∀ s ∈ m.ownTexts types, Readable Plain s :=
  ok_piece_iff_of_keys types readable_keys n

end Node

theorem readable_plain_iff (s : String) : Readable Plain s ↔ Printable s := by
  refine forall₂_congr fun c _ => ?_
  simp only [Plain, List.mem_cons, List.not_mem_nil, or_false]
  constructor
  · rintro (⟨visible, -, -⟩ | rfl | rfl | feed) control
    · omega
    · exact absurd control (by decide)
    · exact absurd control (by decide)
    · exact feed
  · intro feed
    by_cases control : c.toNat ≤ 0x1F
    · exact .inr (.inr (.inr (feed control)))
    · by_cases special : c = '"' ∨ c = '\\'
      · rcases special with rfl | rfl <;> simp
      · rw [not_or] at special
        exact .inl ⟨by omega, special⟩

/-! ## What a walk writes -/

namespace Encoder.Json

open State

variable {α : Type}

/-- The texts of pieces that are added to a frame, each with the comma that is due before it. -/
def continued : (hasEntries : Bool) → List (Json.Piece α) → List Char
  | _, [] => []
  | hasEntries, p :: rest => (if hasEntries then [','] else []) ++ p.text ++ continued true rest

theorem continued_append (hasEntries : Bool) (front back : List (Json.Piece α)) :
    continued hasEntries (front ++ back) =
      continued hasEntries front ++ continued (hasEntries || !front.isEmpty) back := by
  induction front generalizing hasEntries with
  | nil => simp [continued]
  | cons p rest ih => simp [continued, ih]

theorem continued_false (pieces : List (Json.Piece α)) :
    continued false pieces = Json.Piece.joined pieces := by
  have later (p : Json.Piece α) (rest : List (Json.Piece α)) :
      p.text ++ continued true rest = Json.Piece.joined (p :: rest) := by
    induction rest generalizing p with
    | nil => simp [continued]
    | cons q rest ih =>
      rw [Json.Piece.joined_cons_cons, ← ih q]
      simp [continued]
  cases pieces with
  | nil => rfl
  | cons p rest =>
    rw [← later]
    rfl

/-- The state in which a node writes its object: the separator is written, and the key if one is
due. -/
def opened (slot : String) (s : State) : State :=
  if s.inObject then s.openEntry.write (Text.quote slot ++ ":") else s.openEntry

/-- The state after pieces have been added to the innermost frame. -/
def added (pieces : List (Json.Piece α)) (s : State) : State :=
  match s.stack with
  | [] => s
  | frame :: rest =>
      ⟨s.out ++ String.ofList (continued frame.hasEntries pieces),
        ⟨frame.bracket, frame.hasEntries || !pieces.isEmpty⟩ :: rest⟩

theorem added_nil (s : State) : added ([] : List (Json.Piece α)) s = s := by
  obtain ⟨out, _ | ⟨frame, rest⟩⟩ := s
  · rfl
  · simp [added, continued]

theorem added_append (front back : List (Json.Piece α)) (s : State) :
    added (front ++ back) s = added back (added front s) := by
  obtain ⟨out, _ | ⟨frame, rest⟩⟩ := s
  · rfl
  · have entries : (!(front ++ back).isEmpty) = (!front.isEmpty || !back.isEmpty) := by
      cases front <;> rfl
    simp [added, continued_append, entries, String.ofList_append, String.append_assoc,
      Bool.or_assoc]

theorem inObject_added (pieces : List (Json.Piece α)) (s : State) :
    (added pieces s).inObject = s.inObject := by
  obtain ⟨out, _ | ⟨frame, rest⟩⟩ := s <;> rfl

/-- The innermost frame is an array. -/
def InArray (s : State) : Prop :=
  s.stack.head?.map Frame.bracket = some .array

theorem inArray_added {pieces : List (Json.Piece α)} {s : State} (inside : InArray s) :
    InArray (added pieces s) := by
  obtain ⟨out, _ | ⟨frame, rest⟩⟩ := s
  · exact inside
  · exact inside

variable (plain : Char → Prop)

theorem write_opened_of_inObject {s : State} (inside : s.inObject) (slot : String)
    (p : Json.Piece Value) :
    (opened slot s).write (String.ofList p.text) = added [Json.Piece.member plain slot p] s := by
  obtain ⟨out, _ | ⟨⟨bracket, hasEntries⟩, rest⟩⟩ := s
  · cases inside
  · cases hasEntries <;>
      simp [opened, inside, openEntry, write, added, continued, Json.Piece.member,
        String.append_assoc, String.ofList_append]

theorem write_opened_of_inArray {s : State} (inside : InArray s) (slot : String)
    (p : Json.Piece Value) :
    (opened slot s).write (String.ofList p.text) = added [p] s := by
  obtain ⟨out, _ | ⟨⟨bracket, hasEntries⟩, rest⟩⟩ := s
  · cases inside
  · obtain rfl : bracket = .array := by simpa [InArray] using inside
    cases hasEntries <;>
      simp [opened, inObject, openEntry, write, added, continued, ← String.toList_inj]

/-- An object that is opened with its own entries, then gets further members and is closed. -/
theorem pop_object (s : State) {entries : List String} {own : List (Json.Piece (String × Value))}
    (spelled : own.map Json.Piece.text = entries.map String.toList)
    (pieces : List (Json.Piece (String × Value))) :
    ((added pieces ((s.write ("\x7b" ++ ",".intercalate entries)).push
        ⟨.object, !entries.isEmpty⟩)).write "\x7d").pop =
      s.write (String.ofList (Json.Piece.object (own ++ pieces)).text) := by
  have empty : entries.isEmpty = own.isEmpty := by
    rw [← List.isEmpty_map (f := String.toList), ← spelled, List.isEmpty_map]
  have joined : Json.Piece.joined (own ++ pieces) =
      [','].intercalate (entries.map String.toList) ++ continued (!own.isEmpty) pieces := by
    rw [← continued_false, continued_append, continued_false, Json.Piece.joined, spelled,
      Bool.false_or]
  simp [added, write, push, pop, Json.Piece.object, joined, empty, ← String.toList_inj]

/-- An array under a key that gets its items and is closed. -/
theorem pop_array {s : State} (inside : s.inObject) (slot : String)
    (pieces : List (Json.Piece Value)) :
    ((added pieces ((s.openEntry.write (Text.quote slot ++ ":[")).push ⟨.array, false⟩)).write
        "]").pop = added [Json.Piece.member plain slot (.array pieces)] s := by
  obtain ⟨out, _ | ⟨⟨bracket, hasEntries⟩, rest⟩⟩ := s
  · cases inside
  · cases hasEntries <;>
      simp [added, openEntry, write, push, pop, continued, continued_false, Json.Piece.member,
        Json.Piece.array, ← String.toList_inj]

theorem toList_textEntry (key value : String) :
    (textEntry key value).toList = (Json.Piece.member plain key (.quoted plain value)).text := by
  simp [textEntry, Json.Piece.member, Json.Piece.quoted]

theorem toList_numberEntry (key : String) (value : Nat) :
    (numberEntry key value).toList = (Json.Piece.member plain key (.number value)).text := by
  simp [numberEntry, Json.Piece.member, Json.Piece.number]

theorem map_text_ownPieces (types : Bool) (n : Node) :
    (Node.ownPieces plain types n.info).map Json.Piece.text =
      (ownEntries types n).map String.toList := by
  have attributes : (n.attributes.map fun a => textEntry a.1 a.2).map String.toList =
      (n.attributes.map fun a =>
        Json.Piece.member plain a.1 (.quoted plain a.2)).map Json.Piece.text := by
    simp [List.map_map, Function.comp_def, toList_textEntry plain]
  simp only [Node.ownPieces, ownEntries, List.map_append, attributes]
  cases types <;> cases n.info.coordinates <;> cases n.info.constructedType <;>
    simp [coordinateEntries, toList_textEntry plain, toList_numberEntry plain, Node.attributes,
      Node.typeName]

section Walk

variable (types : Bool)

mutual

/-- A walk over a node writes what is due before it, then its object, and leaves the frames as they
were. -/
theorem walk_eq : (n : Node) → (parent : Option String) → (slot : String) →
    (session : Session) → (s : State) →
    ((json types).walk parent slot n (session, s)).2 =
      (opened slot s).write (String.ofList (n.piece plain types).text)
  | .mk info singular lists, parent, slot, session, s => by
    let n := Node.mk info singular lists
    let begun := ((opened slot s).write ("\x7b" ++ ",".intercalate (ownEntries types n))).push
      ⟨.object, !(ownEntries types n).isEmpty⟩
    have closed := pop_object (opened slot s) (map_text_ownPieces plain types n)
      (Node.singularPieces plain types singular ++ Node.listPieces plain types lists)
    -- the children find the frame of the node open, so their members follow the node's own
    have below (id : String) (session : Session) :
        (((json types).walkLists id lists
          ((json types).walkSingular id singular (session, begun))).2.write "\x7d").pop =
        (opened slot s).write (String.ofList (n.piece plain types).text) := by
      have singly := walkSingular_eq singular id session begun rfl
      have listed := walkLists_eq lists id
        ((json types).walkSingular id singular (session, begun)).1
        ((json types).walkSingular id singular (session, begun)).2
        (by rw [singly, inObject_added]; rfl)
      rw [Prod.mk.eta, singly, ← added_append] at listed
      rw [listed, Node.piece, List.append_assoc]
      exact closed
    cases parent with
    | none => exact below _ _
    | some parentId => exact below _ _

theorem walkSingular_eq : (singular : List (String × Option Node)) → (id : String) →
    (session : Session) → (s : State) → s.inObject →
    ((json types).walkSingular id singular (session, s)).2 =
      added (Node.singularPieces plain types singular) s
  | [], id, session, s, inside => by
    rw [Encoder.walkSingular, Node.singularPieces, added_nil]
  | (_, none) :: rest, id, session, s, inside => by
    rw [Encoder.walkSingular, Node.singularPieces, walkSingular_eq rest id session s inside]
  | (slot, some n) :: rest, id, session, s, inside => by
    have first := walk_eq n (some id) slot session s
    rw [write_opened_of_inObject plain inside] at first
    rw [Encoder.walkSingular, Node.singularPieces, ← List.singleton_append, added_append, ← first]
    exact walkSingular_eq rest id _ _ (by rw [first, inObject_added, inside])

theorem walkLists_eq : (lists : List (String × List Node)) → (id : String) →
    (session : Session) → (s : State) → s.inObject →
    ((json types).walkLists id lists (session, s)).2 =
      added (Node.listPieces plain types lists) s
  | [], id, session, s, inside => by
    rw [Encoder.walkLists, Node.listPieces, added_nil]
  | (slot, items) :: rest, id, session, s, inside => by
    rw [Encoder.walkLists, Node.listPieces]
    split
    · exact walkLists_eq rest id session s inside
    · -- the frame of the array is gone when the next list is reached
      have all := walkItems_eq items id (Text.singularize slot) session
        ((s.openEntry.write (Text.quote slot ++ ":[")).push ⟨.array, false⟩) rfl
      have closed := pop_array plain inside slot (Node.itemPieces plain types items)
      rw [← all] at closed
      have next := inObject_added
        [Json.Piece.member plain slot (.array (Node.itemPieces plain types items))] s
      rw [← closed, inside] at next
      rw [← List.singleton_append, added_append, ← closed]
      exact walkLists_eq rest id _ _ next

theorem walkItems_eq : (items : List Node) → (id slot : String) →
    (session : Session) → (s : State) → InArray s →
    ((json types).walkItems id slot items (session, s)).2 =
      added (Node.itemPieces plain types items) s
  | [], id, slot, session, s, inside => by
    rw [Encoder.walkItems, Node.itemPieces, added_nil]
  | n :: rest, id, slot, session, s, inside => by
    have first := walk_eq n (some id) slot session s
    rw [write_opened_of_inArray inside] at first
    rw [Encoder.walkItems, Node.itemPieces, ← List.singleton_append, added_append, ← first]
    exact walkItems_eq rest id slot _ _ (by rw [first]; exact inArray_added inside)

end

end Walk

theorem run_eq (types : Bool) (root : Node) :
    (json types).run .empty root = String.ofList (root.piece plain types).text := by
  have written := walk_eq plain types root none "root" Session.fresh .empty
  have out := congrArg State.out written
  rw [show opened "root" State.empty = State.empty from rfl] at out
  exact out.trans String.empty_append

end Encoder.Json

/-! ## Documents -/

theorem not_plain_quote : ¬ Plain '"' := by
  rintro ⟨-, quote, -⟩
  exact quote rfl

theorem not_plain_slash : ¬ Plain '\\' := by
  rintro ⟨-, -, slash⟩
  exact slash rfl

/-- A document that is one piece is read exactly as that piece. -/
theorem parses_ofList_iff {p : Json.Piece Value} (sole : Sole (Reads Plain) p) (v : Value) :
    Parses (String.ofList p.text) v ↔ p.ok ∧ v = p.value := by
  unfold Parses
  rw [String.toList_ofList]
  constructor
  · rintro ⟨cs, rest, before, read, after⟩
    obtain ⟨c, tail, begins, visible, -, -⟩ := sole.start
    rw [begins] at before
    rw [before.eq_of_not_blank visible, ← begins, ← List.append_nil p.text] at read
    obtain ⟨holds, rfl, -⟩ := sole.only ends_nil (after.ends ends_nil) read
    exact ⟨holds, rfl⟩
  · rintro ⟨holds, rfl⟩
    have read := sole.reads holds []
    rw [List.append_nil] at read
    exact ⟨_, _, .none, read, .none⟩

/-- The document of a tree is JSON exactly if no text in it has a control character other than line
feeds and carriage returns, and then it is read as the value of the tree and as nothing else. -/
theorem json_run_valid_iff (types : Bool) (root : Node) :
    (Valid ((json types).run .empty root) ↔
      ∀ n ∈ root.preorder, ∀ s ∈ n.ownTexts types, Printable s) ∧
    ∀ v, Parses ((json types).run .empty root) v ↔
      (∀ n ∈ root.preorder, ∀ s ∈ n.ownTexts types, Printable s) ∧ v = root.jsonValue types := by
  have parses (v : Value) : Parses ((json types).run .empty root) v ↔
      (∀ n ∈ root.preorder, ∀ s ∈ n.ownTexts types, Printable s) ∧ v = root.jsonValue types := by
    rw [Encoder.Json.run_eq Plain,
      parses_ofList_iff (Node.sole_piece types not_plain_quote not_plain_slash root),
      Node.ok_piece_iff, Node.value_piece]
    simp only [readable_plain_iff]
  refine ⟨?_, parses⟩
  constructor
  · rintro ⟨v, read⟩
    exact ((parses v).mp read).1
  · intro printable
    exact ⟨_, (parses _).mpr ⟨printable, rfl⟩⟩

end SyntaxExport
