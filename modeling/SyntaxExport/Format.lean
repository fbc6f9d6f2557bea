import SyntaxExport.Text.Blank

/-!
# Output formats and options
-/

namespace SyntaxExport

/-- The formats a tree can be written in. -/
inductive Format where
  | dot
  | json
  | cypher
  | graphml
  | ascii
  deriving DecidableEq, Repr, Inhabited

/-- The lower case of a character as far as it is an ASCII letter: the capitals of ASCII and the
Kelvin sign. Names of formats are ASCII, so no other character can be part of one. -/
def Text.lowerChar (c : Char) : Char :=
  if c = Char.ofNat 0x212A then 'k' else c.toLower

/-- A name as it is looked up: without blanks around it and in lower case. -/
def Text.lookupName (s : String) : String :=
  String.ofList ((Text.trimChars s.toList).map Text.lowerChar)

namespace Format

/-- All formats, in the order they are listed to the user. -/
def all : List Format :=
  [dot, json, cypher, graphml, ascii]

/-- The format's own short name. -/
def name : Format → String
  | dot => "dot"
  | json => "json"
  | cypher => "cypher"
  | graphml => "graphml"
  | ascii => "ascii"

/-- The names a format is known by, the short one first. -/
def aliases : Format → List String
  | dot => ["dot", "custom-dot", "graphviz", "graph-description"]
  | json => ["json", "custom-json", "object-notation"]
  | cypher => ["cypher", "graph-query-script"]
  | graphml => ["graphml", "graph-markup"]
  | ascii => ["ascii", "ascii-tree", "tree"]

/-- The format known by a name, whatever its case and the blanks around it. -/
def ofName? (s : String) : Option Format :=
  all.find? fun format => format.aliases.contains (Text.lookupName s)

/-- The extension of an output file. -/
def extension : Format → String
  | dot => "dot"
  | json => "json"
  | cypher => "cypher"
  | graphml => "graphml"
  | ascii => "txt"

/-- One line about the format. -/
def description : Format → String
  | dot => "Graphviz digraph, one table-labelled node per AST node"
  | json => "nested JSON objects keyed by slot name"
  | cypher => "Cypher MERGE statements with PARENT relationships"
  | graphml => "GraphML document for graph databases"
  | ascii => "indented text tree with source summaries"

/-- The message about a name that no format is known by. -/
def unknownMessage (s : String) : String :=
  s!"unknown export format '{s}' (expected one of: dot, json, cypher, graphml, ascii)"

end Format

/-- What a line of the text outline shows of its node. -/
inductive LineStyle where
  | summaryTypeRange
  | summaryType
  deriving DecidableEq, Repr, Inhabited

namespace LineStyle

/-- The full name of a style, as it is written in a configuration. -/
def name : LineStyle → String
  | summaryTypeRange => "summary-type-range"
  | summaryType => "summary-type"

/-- The style with exactly that full name. -/
def ofFullName? (s : String) : Option LineStyle :=
  [summaryTypeRange, summaryType].find? fun style => style.name == s

/-- The style known by a name, whatever its case and the blanks around it. -/
def ofName? (s : String) : Option LineStyle :=
  match Text.lookupName s with
  | "summary-type-range" | "full" => some summaryTypeRange
  | "summary-type" | "short" => some summaryType
  | _ => none

end LineStyle

/-- What an export shows beyond the bare tree. -/
structure Options where
  includeTypeName : Bool := true
  resolveTypes : Bool := false
  lineStyle : LineStyle := .summaryTypeRange
  deriving DecidableEq, Repr, Inhabited

end SyntaxExport
