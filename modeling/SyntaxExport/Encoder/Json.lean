import SyntaxExport.Text.Escape
import SyntaxExport.Walk

/-!
# Object notation

Every node becomes an object. Its own entries come first: the type name, the attributes as texts,
the coordinates as numbers and the constructed type; its children follow under the names of their
slots, those of a list as one array under the name of the list.

A separator is due before every entry but the first of the innermost object or array, so the state
holds a stack of what is open and whether it has an entry already.
-/

namespace SyntaxExport.Encoder.Json

/-- What is open: an object, whose entries have keys, or an array. -/
inductive Bracket where
  | object
  | array
  deriving DecidableEq, Repr

/-- An open object or array, and whether it has an entry. -/
structure Frame where
  bracket : Bracket
  hasEntries : Bool
  deriving DecidableEq, Repr

/-- The text written so far and the open frames, innermost first. -/
structure State where
  out : String
  stack : List Frame
  deriving DecidableEq, Repr

namespace State

/-- Nothing written. -/
def empty : State :=
  ⟨"", []⟩

/-- Writes a text. -/
def write (s : State) (text : String) : State :=
  { s with out := s.out ++ text }

/-- Opens a frame. -/
def push (s : State) (frame : Frame) : State :=
  { s with stack := frame :: s.stack }

/-- Closes the innermost frame. -/
def pop (s : State) : State :=
  { s with stack := s.stack.tail }

/-- Writes the separator that is due before the next entry of the innermost frame. -/
def openEntry (s : State) : State :=
  match s.stack with
  | [] => s
  | frame :: rest =>
      ⟨if frame.hasEntries then s.out ++ "," else s.out, { frame with hasEntries := true } :: rest⟩

/-- The innermost frame is an object. -/
def inObject (s : State) : Bool :=
  match s.stack with
  | frame :: _ => frame.bracket == .object
  | [] => false

end State

/-- A key with a text. -/
def textEntry (key value : String) : String :=
  Text.quote key ++ ":" ++ Text.quote value

/-- A key with a number. -/
def numberEntry (key : String) (value : Nat) : String :=
  Text.quote key ++ ":" ++ toString value

/-- The four entries of coordinates. -/
def coordinateEntries (c : Coordinates) : List String :=
  [numberEntry "_start_line" c.startLine, numberEntry "_start_column" c.startColumn,
    numberEntry "_end_line" c.endLine, numberEntry "_end_column" c.endColumn]

/-- A node's own entries. -/
def ownEntries (includeTypeName : Bool) (n : Node) : List String :=
  (if includeTypeName then [textEntry "_type" n.typeName] else []) ++
    n.attributes.map (fun a => textEntry a.1 a.2) ++
    (n.info.coordinates.map coordinateEntries).getD [] ++
    (n.info.constructedType.map (textEntry "_typeNameString")).toList

/-- Opens the object of a node, under its slot unless it stands in an array or alone. -/
def node (includeTypeName : Bool) (_id slot : String) (n : Node) (s : State) : State :=
  let keyed := s.inObject
  let s := s.openEntry
  let s := if keyed then s.write (Text.quote slot ++ ":") else s
  let entries := ownEntries includeTypeName n
  (s.write ("\x7b" ++ ",".intercalate entries)).push ⟨.object, !entries.isEmpty⟩

/-- Opens the array of a list, under the list's own name. -/
def enterList (_parentId slot : String) (_length : Nat) (session : Session) (s : State) :
    Option String × Session × State :=
  (none, session, (s.openEntry.write (Text.quote slot ++ ":[")).push ⟨.array, false⟩)

end Json

/-- The object notation of a tree. -/
def json (includeTypeName : Bool) : Encoder Json.State where
  node := Json.node includeTypeName
  edge := fun _ _ _ s => s
  enterList := Json.enterList
  leaveList := fun _ s => (s.write "]").pop
  leaveNode := fun _ _ _ s => (s.write "\x7d").pop
  finish := Json.State.out

end SyntaxExport.Encoder
