import SyntaxExport.Grammar.File
import SyntaxExport.Lowering

/-!
# Source texts

`Source.parse` reads a Rust source text and gives its tree of nodes. A byte order mark at the
beginning is no part of the text. A second one, and a first line for the operating system, are
skipped before the text is split into tokens; the line keeps its line break, so that lines are
counted as before.
-/

namespace SyntaxExport

/-- Why a source text has no tree: it cannot be split into tokens, or a token cannot stand where it
does. -/
inductive SyntaxError where
  | token (position : Position)
  | grammar (position : Position)
  deriving DecidableEq, Repr

namespace SyntaxError

/-- Where the error is. -/
def position : SyntaxError → Position
  | token p => p
  | grammar p => p

/-- What is wrong. -/
def wording : SyntaxError → String
  | token _ => "cannot parse string into token stream"
  | grammar _ => "unexpected token"

/-- The message for a file, with the given words for what is wrong. Columns are counted from one. -/
def message (words : SyntaxError → String) (path : String) (e : SyntaxError) : String :=
  s!"Failed to parse {path}: {words e} at {e.position.line}:{e.position.column + 1}"

end SyntaxError

namespace Source

/-- The characters without a byte order mark at their beginning. -/
def withoutMark : List Char → List Char
  | [] => []
  | c :: rest => if c = Tree.byteOrderMark then rest else c :: rest

/-- The first line for the operating system and what follows it. A mark of that line followed by a
bracket starts an attribute. -/
def splitShebang (cs : List Char) : Option String × List Char :=
  match cs with
  | '#' :: '!' :: rest =>
      if (rest.drop (Scan.blank rest)).head? = some '[' then (none, cs)
      else (some (String.ofList (cs.takeWhile (· ≠ '\n'))), cs.dropWhile (· ≠ '\n'))
  | _ => (none, cs)

/-- The file that characters stand for, with the line for the operating system. -/
def readFile (cs : List Char) (shebang : Option String) : Except SyntaxError (SourceFile cs) :=
  match Tree.read cs with
  | .error p => .error (.token p)
  | .ok trees =>
      match Grammar.file trees shebang with
      | .error p => .error (.grammar p)
      | .ok file => .ok file

/-- The tree of nodes of a source text. -/
def parse (text : String) : Except SyntaxError Node :=
  let source := withoutMark text.toList
  let (shebang, content) := splitShebang (withoutMark source)
  match readFile content shebang with
  | .error e => .error e
  | .ok file => .ok ((Lowering.ofSource (String.ofList source)).file file)

end Source

end SyntaxExport
