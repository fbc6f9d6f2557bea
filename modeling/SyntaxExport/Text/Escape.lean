/-!
# Escapes of the output formats

Every format has its own set of characters that may not stand for themselves. The sets are not
unified: each function replaces exactly the characters of its format, one by one, and keeps all
others.
-/

namespace SyntaxExport.Text

/-- The text with every character replaced by what `f` gives for it. -/
def replaceEach (f : Char → List Char) (s : String) : String :=
  String.ofList (s.toList.flatMap f)

/-- A character of a quoted label of the graph description: a double quote gets a backslash. -/
def labelChar (c : Char) : List Char :=
  if c = '"' then ['\\', '"'] else [c]

/-- Text of a quoted label of the graph description. -/
def escapeLabel (s : String) : String :=
  replaceEach labelChar s

/-- A character of markup inside a label: the five special characters are written as entities. -/
def entityChar : Char → List Char
  | '<' => ['&', 'l', 't', ';']
  | '>' => ['&', 'g', 't', ';']
  | '&' => ['&', 'a', 'm', 'p', ';']
  | '"' => ['&', 'q', 'u', 'o', 't', ';']
  | '\'' => ['&', '#', '3', '9', ';']
  | c => [c]

/-- Text of markup inside a label. -/
def escapeEntities (s : String) : String :=
  replaceEach entityChar s

/-- A character of a quoted object-notation text. Only the backslash, the double quote, the line
feed and the carriage return are escaped. -/
def quotedChar : Char → List Char
  | '\\' => ['\\', '\\']
  | '"' => ['\\', '"']
  | '\n' => ['\\', 'n']
  | '\r' => ['\\', 'r']
  | c => [c]

/-- A text of the object notation with its quotes. -/
def quote (s : String) : String :=
  String.ofList ('"' :: s.toList.flatMap quotedChar ++ ['"'])

/-- A character of a single-quoted query text: the quote gets a backslash. -/
def queryChar (c : Char) : List Char :=
  if c = '\'' then ['\\', '\''] else [c]

/-- Body of a single-quoted query text. -/
def escapeQuery (s : String) : String :=
  replaceEach queryChar s

/-- A character of graph-markup data: only the angle brackets are written as entities. -/
def dataChar : Char → List Char
  | '<' => ['&', 'l', 't', ';']
  | '>' => ['&', 'g', 't', ';']
  | c => [c]

/-- Body of a graph-markup data element. -/
def escapeData (s : String) : String :=
  replaceEach dataChar s

/-- A character of a one-line message: line breaks and tabs are made visible. -/
def visibleChar : Char → List Char
  | '\n' => ['\\', 'n']
  | '\r' => ['\\', 'r']
  | '\t' => ['\\', 't']
  | c => [c]

/-- The text with its line breaks and tabs made visible. -/
def escapeWhitespace (s : String) : String :=
  replaceEach visibleChar s

end SyntaxExport.Text
