import SyntaxExport.Text.Escape
import SyntaxExport.Walk

/-!
# Graph markup

The document declares the keys of all data before the graph, and which keys there are is known only
after the walk. So nodes and edges are kept as fragments until the end, together with the sorted
sets of their keys.
-/

namespace SyntaxExport.Encoder.GraphML

/-- The keys and fragments so far. Keys are sorted and without repetition. -/
structure State where
  nodeKeys : List String
  edgeKeys : List String
  nodes : List String
  edges : List String
  deriving DecidableEq, Repr

/-- Nothing kept. -/
def State.empty : State :=
  ⟨[], [], [], []⟩

/-- Adds a key to a sorted list of keys. The order of texts is that of their code points. -/
def insertKey (key : String) : List String → List String
  | [] => [key]
  | head :: tail =>
      if key < head then key :: head :: tail
      else if key = head then head :: tail
      else head :: insertKey key tail

/-- An attribute of an element. -/
def field (name value : String) : String :=
  " " ++ name ++ "=\"" ++ value ++ "\""

/-- A data element. -/
def dataEntry (key value : String) : String :=
  "<data" ++ field "key" key ++ ">" ++ Text.escapeData value ++ "</data>"

/-- The declaration of a key of nodes or edges. -/
def keyEntry (element name : String) : String :=
  "\n    <key" ++ field "id" name ++ field "for" element ++ field "attr.name" name ++
    field "attr.type" "string" ++ "/>"

/-- The data of a node: its type and its attributes. -/
def nodeData (includeTypeName : Bool) (n : Node) : List (String × String) :=
  (if includeTypeName then [("type", n.typeName)] else []) ++ n.attributes

/-- The fragment of a node. -/
def nodeFragment (includeTypeName : Bool) (id : String) (n : Node) : String :=
  "        <node" ++ field "id" id ++ field "labels" (":Node:" ++ n.typeName) ++ ">" ++
    String.join ((nodeData includeTypeName n).map fun d => "\n            " ++ dataEntry d.1 d.2) ++
    "\n        </node>"

/-- The label of all edges. -/
def edgeLabel : String :=
  "PARENT"

/-- The fragment of an edge, which leads from the child to its parent. -/
def edgeFragment (edgeId parentId childId : String) : String :=
  "        <edge" ++ field "id" edgeId ++ field "source" childId ++
    field "target" parentId ++ field "label" edgeLabel ++ ">\n            " ++
    dataEntry edgeLabel edgeLabel ++ "\n        </edge>"

/-- Keeps a node. -/
def node (includeTypeName : Bool) (id _slot : String) (n : Node) (s : State) : State :=
  let keys := "id" :: "labels" :: (nodeData includeTypeName n).map Prod.fst
  { s with
    nodeKeys := keys.foldl (fun sorted key => insertKey key sorted) s.nodeKeys
    nodes := nodeFragment includeTypeName id n :: s.nodes }

/-- Keeps an edge. -/
def edge (edgeId parentId childId : String) (s : State) : State :=
  { s with
    edgeKeys := ["id", "source", "target", "label"].foldl
      (fun sorted key => insertKey key sorted) s.edgeKeys
    edges := edgeFragment edgeId parentId childId :: s.edges }

/-- What stands before the keys. -/
def header : String :=
  "<?xml version=\"1.0\" encoding=\"UTF-8\"?>\n" ++
    "<graphml xmlns=\"http://graphml.graphdrawing.org/xmlns\"\n" ++
    "         xmlns:xsi=\"http://www.w3.org/2001/XMLSchema-instance\"\n" ++
    "         xsi:schemaLocation=\"http://graphml.graphdrawing.org/xmlns " ++
    "http://graphml.graphdrawing.org/xmlns/1.0/graphml.xsd\">\n"

/-- The whole document. -/
def document (s : State) : String :=
  header ++ String.join (s.nodeKeys.map (keyEntry "node")) ++
    String.join (s.edgeKeys.map (keyEntry "edge")) ++
    "\n    <graph id=\"G\" edgedefault=\"directed\">" ++
    String.join (s.nodes.reverse.map ("\n" ++ ·)) ++
    String.join (s.edges.reverse.map ("\n" ++ ·)) ++
    "\n    </graph>\n</graphml>"

end GraphML

/-- The graph markup of a tree. -/
def graphml (includeTypeName : Bool) : Encoder GraphML.State where
  node := GraphML.node includeTypeName
  edge := GraphML.edge
  finish := GraphML.document

end SyntaxExport.Encoder
