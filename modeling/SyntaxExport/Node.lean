import SyntaxExport.Text.Comment
import SyntaxExport.Text.Summary

/-!
# Nodes of an exported tree

A `Node` has a type name, attributes with text values, slots for single children and slots for lists
of children, each in declared order. It may know where it stands in the source and which part of the
source text it covers.
-/

namespace SyntaxExport

/-- Lines and columns of a node, all counted from one; the end column is the one of the last
character. -/
structure Coordinates where
  startLine : Nat
  startColumn : Nat
  endLine : Nat
  endColumn : Nat
  deriving DecidableEq, Repr

namespace Coordinates

/-- Written in square brackets. -/
def bracketed (c : Coordinates) : String :=
  s!"[{c.startLine}:{c.startColumn}-{c.endLine}:{c.endColumn}]"

/-- Written in parentheses, with a dash for coordinates that are not there. -/
def parenthesized : Option Coordinates → String
  | some c => s!"({c.startLine},{c.startColumn})-({c.endLine},{c.endColumn})"
  | none => "(-)"

end Coordinates

/-- A part of a source text, between two byte offsets of its UTF-8 form. -/
structure TextSlice where
  source : String
  start : Nat
  stop : Nat
  deriving DecidableEq, Repr

namespace TextSlice

/-- The characters after the first `count` bytes; none if there are fewer bytes or a character is
cut apart. -/
def dropBytes : (count : Nat) → List Char → Option (List Char)
  | 0, cs => some cs
  | _ + 1, [] => none
  | count + 1, c :: rest =>
      if c.utf8Size ≤ count + 1 then dropBytes (count + 1 - c.utf8Size) rest else none

/-- The characters of the first `count` bytes; none if there are fewer bytes or a character is cut
apart. -/
def takeBytes : (count : Nat) → List Char → Option (List Char)
  | 0, _ => some []
  | _ + 1, [] => none
  | count + 1, c :: rest =>
      if c.utf8Size ≤ count + 1 then (takeBytes (count + 1 - c.utf8Size) rest).map (c :: ·)
      else none

/-- The text of the slice, if its offsets fall between characters of the source, in order. -/
def text? (slice : TextSlice) : Option String :=
  if slice.stop < slice.start then none
  else
    ((dropBytes slice.start slice.source.toList).bind
      (takeBytes (slice.stop - slice.start))).map String.ofList

end TextSlice

/-- What a node says about itself. -/
structure NodeInfo where
  typeName : String
  attributes : List (String × String) := []
  coordinates : Option Coordinates := none
  text : Option TextSlice := none
  isExpression : Bool := false
  isStringLiteral : Bool := false
  constructedType : Option String := none
  deriving DecidableEq, Repr

/-- A node with its children. -/
inductive Node where
  | mk (info : NodeInfo) (singular : List (String × Option Node))
      (lists : List (String × List Node))

namespace Node

/-- What the node says about itself. -/
def info : Node → NodeInfo
  | mk info _ _ => info

/-- Slots for a single child, in declared order. -/
def singular : Node → List (String × Option Node)
  | mk _ singular _ => singular

/-- Slots for a list of children, in declared order. -/
def lists : Node → List (String × List Node)
  | mk _ _ lists => lists

/-- The name of the node's kind. -/
def typeName (n : Node) : String :=
  n.info.typeName

/-- Attributes in declared order. -/
def attributes (n : Node) : List (String × String) :=
  n.info.attributes

/-- The child in the first single slot of that name. -/
def child? (n : Node) (slot : String) : Option Node :=
  (n.singular.lookup slot).join

/-- The items of the first list slot of that name; a missing slot has none. -/
def items (n : Node) (slot : String) : List Node :=
  (n.lists.lookup slot).getD []

/-- The value of the first attribute of that name. -/
def attribute? (n : Node) (name : String) : Option String :=
  n.attributes.lookup name

/-- The children: those in single slots first, then the items of the lists. -/
def children (n : Node) : List Node :=
  n.singular.filterMap Prod.snd ++ n.lists.flatMap Prod.snd

mutual

/-- The number of nodes of the tree below and including a node. -/
def count : Node → Nat
  | mk _ singular lists => 1 + countSingular singular + countLists lists

/-- The number of nodes below single slots. -/
def countSingular : List (String × Option Node) → Nat
  | [] => 0
  | (_, none) :: rest => countSingular rest
  | (_, some n) :: rest => count n + countSingular rest

/-- The number of nodes below list slots. -/
def countLists : List (String × List Node) → Nat
  | [] => 0
  | (_, items) :: rest => countItems items + countLists rest

/-- The number of nodes below the items of a list. -/
def countItems : List Node → Nat
  | [] => 0
  | n :: rest => count n + countItems rest

end

/-- The node's own source text without comments. -/
def sourceText? (n : Node) : Option String :=
  (n.info.text.bind TextSlice.text?).map Text.stripComments

/-- The node's source text in one line; empty if it has none. -/
def summary (n : Node) : String :=
  match n.sourceText? with
  | some text => Text.summarize text
  | none => ""

end Node

end SyntaxExport
