import SyntaxExport.Node

/-!
# Trees without their empty slots

A walk passes over single slots without a child and over lists without items, and each format writes
only a part of what a node says about itself. Two trees that differ in nothing else cannot be told
apart by what is written of them. `Node.condensed` leaves out the empty slots, at every depth, and
keeps of each node what a function on its `NodeInfo` says: two trees with the same condensed form
agree in all that is kept, in the children that are there with the names of their slots, and in the
order of all of it.
-/

namespace SyntaxExport

/-- What the object notation writes of a node: all but its text and the marks of its kind. -/
def NodeInfo.written (info : NodeInfo) : NodeInfo where
  typeName := info.typeName
  attributes := info.attributes
  coordinates := info.coordinates
  constructedType := info.constructedType

/-- The type name alone. -/
def NodeInfo.bare (info : NodeInfo) : NodeInfo where
  typeName := info.typeName

namespace Node

section Condensed

variable (keep : NodeInfo → NodeInfo)

mutual

/-- The tree without its empty slots, with what is kept of each node. -/
def condensed : Node → Node
  | mk info singular lists => mk (keep info) (condensedSingular singular) (condensedLists lists)

/-- The single slots that have a child. -/
def condensedSingular : List (String × Option Node) → List (String × Option Node)
  | [] => []
  | (_, none) :: rest => condensedSingular rest
  | (slot, some n) :: rest => (slot, some (condensed n)) :: condensedSingular rest

/-- The lists that are not empty. -/
def condensedLists : List (String × List Node) → List (String × List Node)
  | [] => []
  | (slot, items) :: rest =>
      if items.isEmpty then condensedLists rest
      else (slot, condensedItems items) :: condensedLists rest

/-- The items of a list, each condensed. -/
def condensedItems : List Node → List Node
  | [] => []
  | n :: rest => condensed n :: condensedItems rest

end

end Condensed

end Node

end SyntaxExport
