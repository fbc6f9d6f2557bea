import SyntaxExport.Text.Escape
import SyntaxExport.Walk

/-!
# Graph description

Every node becomes a graph node whose label is a table: a header with the slot, the type name and
the coordinates, then a row for each attribute. A list gets an ellipse of its own between its owner
and its items.
-/

namespace SyntaxExport.Encoder.Dot

/-- The colour of a node and of the edge that leads to it. -/
inductive Color where
  | comment
  | name
  | text
  | plain
  deriving DecidableEq, Repr

namespace Color

/-- The colour's name in the graph description. -/
def label : Color → String
  | comment => "LightGray"
  | name => "SteelBlue"
  | text => "SeaGreen"
  | plain => "black"

/-- The colour of a node: comments by their slot, names by theirs, then text literals. -/
def ofNode (slot : String) (n : Node) : Color :=
  if slot = "comment" then comment
  else if slot = "name" then name
  else if n.info.isStringLiteral then text
  else plain

end Color

/-- The colour of lists. -/
def listColor : String :=
  "OrangeRed"

/-- The text written so far and the colour of the last node. -/
structure State where
  out : String
  last : Color
  deriving DecidableEq, Repr

/-- The graph opened and nothing in it. -/
def State.start : State :=
  ⟨"digraph \x7b", .plain⟩

/-- The lines of an attribute's value: split at line feeds, a carriage return before one dropped. -/
def valueLines (value : String) : List (List Char) :=
  ((Text.trimChars value.toList).splitOn '\n').map fun line =>
    if line.getLast? = some '\r' then line.dropLast else line

/-- The row of an attribute: several lines are aligned left, a single one is centred. -/
def attributeRow (name value : String) : String :=
  let lines := valueLines value
  let align := if lines.length > 1 then "left" else "center"
  let rows := lines.map fun line =>
    "<tr><td align='" ++ align ++ "'>" ++ Text.escapeEntities (String.ofList line) ++ "</td></tr>"
  "<tr><td>" ++ name ++
    "</td><td align='left'><table border='0' cellspacing='0' cellpadding='0'>" ++
    String.join rows ++ "</table></td></tr>"

/-- The statement of a node. `resolved` is the type of an expression, if one is known. -/
def nodeStatement (includeTypeName : Bool) (id slot : String) (n : Node) (color : Color)
    (resolved : Option String) : String :=
  let font := "<font color='" ++ color.label ++ "'>"
  "\n" ++ id ++ " [shape=none,label=<" ++ font ++ "<table border='0' color='" ++ color.label ++
    "' cellspacing='0' cellborder='1'><tr><td colspan='2'>" ++ font ++ Text.escapeLabel slot ++
    (if includeTypeName then " (" ++ n.typeName ++ ")" else "") ++
    "</font><br/><font color='#aaaaaa' size='8'>" ++
    (n.info.coordinates.map Coordinates.bracketed).getD "" ++ "</font>" ++
    (match resolved with
      | some type =>
          "<br/><font color='red' size='8'>Resolved Type: " ++ Text.escapeEntities type ++ "</font>"
      | none => "") ++
    "</td></tr>" ++ String.join (n.attributes.map fun a => attributeRow a.1 a.2) ++
    "</table></font>>];"

/-- The statement of an edge. -/
def edgeStatement (parentId childId color : String) : String :=
  "\n" ++ parentId ++ " -> " ++ childId ++ " [color = " ++ color ++ "];"

/-- The statement of a list. -/
def listStatement (id slot : String) : String :=
  "\n" ++ id ++ " [shape=ellipse,color=" ++ listColor ++ ",label=\"" ++
    Text.escapeLabel slot ++ "\"];"

/-- Writes a node. The type of an expression is shown where `resolve` knows one. -/
def node (includeTypeName : Bool) (resolve : Node → Option String) (id slot : String) (n : Node)
    (s : State) : State :=
  let color := Color.ofNode slot n
  let resolved := if n.info.isExpression then resolve n else none
  ⟨s.out ++ nodeStatement includeTypeName id slot n color resolved, color⟩

/-- Writes the ellipse of a list, which takes a node identifier of its own. -/
def enterList (parentId slot : String) (_length : Nat) (session : Session) (s : State) :
    Option String × Session × State :=
  let (id, session) := session.nextNode
  (some id, session,
    { s with out := s.out ++ listStatement id slot ++ edgeStatement parentId id listColor })

end Dot

/-- The graph description of a tree. -/
def dot (includeTypeName : Bool) (resolve : Node → Option String) : Encoder Dot.State where
  node := Dot.node includeTypeName resolve
  edge := fun _ parentId childId s =>
    { s with out := s.out ++ Dot.edgeStatement parentId childId s.last.label }
  enterList := Dot.enterList
  finish := fun s => s.out ++ "\n\x7d"

end SyntaxExport.Encoder
