import SyntaxExport.Toml.Scan

/-!
# TOML documents

`Toml.parse` reads a document: lines with a key and a value, headers of tables and of lists of
tables, comments. Values and dotted keys may be nested less than eighty deep.
-/

namespace SyntaxExport.Toml

/-! ## Keys -/

/-- A character of a key without quotes. -/
def isKeyChar (c : Char) : Bool :=
  c.isAlphanum || c = '_' || c = '-'

/-- Reads one key, with blanks around it. -/
def simpleKey : Reader String := do
  blanks
  let quoted : Reader String := lineText
  let key ← quoted <|> do
    let cs ← takeWhile isKeyChar
    if cs.isEmpty then failure else return String.ofList cs
  blanks
  return key

/-- Nesting ends before this depth. -/
def depthLimit : Nat := 80

/-- At most `bound` further keys, each behind a dot. -/
def furtherKeys : (bound : Nat) → Reader (List String)
  | 0 => failure
  | bound + 1 => do
      if ← literal? "." then
        let key ← simpleKey
        let others ← furtherKeys bound
        return key :: others
      else return []

/-- Reads a key: the keys of the tables on the way, and the last one. -/
def key : Reader (List String × String) := do
  let first ← simpleKey
  let others ← furtherKeys (depthLimit - 1)
  match (first :: others).getLast? with
  | some last => return ((first :: others).dropLast, last)
  | none => failure

/-! ## Values -/

/-- Reads a comment up to the end of its line. -/
def comment : Reader Unit := do
  literal "#"
  let _ ← takeWhile isPlain

/-- Skips at most `bound` blanks, line breaks and comments. -/
def fillBounded : (bound : Nat) → Reader Unit
  | 0 => return ()
  | bound + 1 => do
      blanks
      match ← peek? with
      | some '#' =>
          comment
          lineBreak
          fillBounded bound
      | some '\n' | some '\r' =>
          lineBreak
          fillBounded bound
      | _ => return ()

/-- Skips blanks, line breaks and comments. -/
def fill : Reader Unit := do
  fillBounded ((← get).length + 1)

/-- At most `bound` elements of an array, up to its closing bracket. -/
def arrayItems (value : Reader Value) : (bound : Nat) → Reader (List Value)
  | 0 => failure
  | bound + 1 => do
      fill
      if ← literal? "]" then return []
      else
        let first ← value
        fill
        if ← literal? "," then
          let others ← arrayItems value bound
          return first :: others
        else
          literal "]"
          return [first]

/-- At most `bound` entries of a table in one line, up to its closing brace, behind those read. -/
def inlineEntries (value : Reader Value) : (bound : Nat) → Entries → Reader Entries
  | 0, _ => failure
  | bound + 1, entries => do
      let (path, last) ← key
      literal "="
      blanks
      let v ← value
      blanks
      match entries.insert path last v with
      | none => failure
      | some entries =>
          if ← literal? "," then inlineEntries value bound entries
          else
            literal "\x7d"
            return entries

/-- Reads a table in one line behind its opening brace. -/
def inlineTable (value : Reader Value) : Reader Value := do
  blanks
  if ← literal? "\x7d" then return .table .inline []
  else
    let entries ← inlineEntries value ((← get).length + 1) []
    return .table .inline entries

/-- Reads a value that holds no others. -/
def scalar : Reader Value := do
  match ← peek? with
  | some '"' | some '\'' => return .text (← text)
  | some 't' =>
      literal "true"
      return .boolean true
  | some 'f' =>
      literal "false"
      return .boolean false
  | _ =>
      (do moment; return .moment) <|> (do float; return .float) <|> (do return .integer (← integer))

/-- Reads a value in which others are nested at most `depth` deep. -/
def value : (depth : Nat) → Reader Value
  | 0 => scalar
  | depth + 1 => do
      if ← literal? "[" then return .array (← arrayItems (value depth) ((← get).length + 1))
      else if ← literal? "\x7b" then inlineTable (value depth)
      else scalar

/-! ## Lines -/

/-- What has been read: the tables that are done, the entries of the current one, the path of its
header, and whether it is one of several. -/
structure State where
  done : Entries
  current : Entries
  path : List String
  isRepeated : Bool

namespace State

/-- Nothing has been read. -/
def start : State :=
  ⟨[], [], [], false⟩

/-- Puts the current table among those that are done. -/
def close (s : State) : Option Entries :=
  match s.path.getLast? with
  | none => some s.current
  | some last =>
      let store (_ : Origin) (entries : Entries) : Option Entries :=
        match entries.lookup last, s.isRepeated with
        | none, true => some (entries ++ [(last, .tables [s.current])])
        | some (.tables items), true => some (entries.replace last (.tables (items ++ [s.current])))
        | none, false => some (entries ++ [(last, .table .header s.current)])
        | _, _ => none
      s.done.modifyAt false store s.path.dropLast .header

/-- Starts a table under a header. One that was only part of longer headers keeps its entries. -/
def openTable (s : State) (path : List String) (last : String) : Option State := do
  let done ← s.close
  let parent ← done.at? path
  match parent.lookup last with
  | none => return ⟨done, [], path ++ [last], false⟩
  | some (.table .parent entries) =>
      let erase (_ : Origin) (inner : Entries) : Option Entries := some (inner.remove last)
      let done ← done.modifyAt false erase path .header
      return ⟨done, entries, path ++ [last], false⟩
  | some _ => none

/-- Starts a further table of a list under a header. -/
def openRepeated (s : State) (path : List String) (last : String) : Option State := do
  let done ← s.close
  let parent ← done.at? path
  match parent.lookup last with
  | none | some (.tables _) => return ⟨done, [], path ++ [last], true⟩
  | some _ => none

/-- Adds an entry to the current table. -/
def add (s : State) (path : List String) (last : String) (v : Value) : Option State :=
  (s.current.insert path last v).map fun entries => { s with current := entries }

end State

/-- Reads the end of a line: blanks, perhaps a comment, and a line break if anything follows. -/
def lineEnd : Reader Unit := do
  blanks
  if (← peek?) == some '#' then comment
  match ← peek? with
  | none => return ()
  | some _ => lineBreak

/-- Reads a header behind its first bracket. -/
def header (s : State) : Reader State := do
  let isRepeated ← literal? "["
  let (path, last) ← key
  literal (if isRepeated then "]]" else "]")
  lineEnd
  if isRepeated then s.openRepeated path last else s.openTable path last

/-- Reads an entry. -/
def entry (s : State) : Reader State := do
  let (path, last) ← key
  literal "="
  blanks
  let v ← value (depthLimit - 1)
  lineEnd
  s.add path last v

/-- Reads at most `bound` lines, up to the end. -/
def lines : (bound : Nat) → State → Reader State
  | 0, _ => failure
  | bound + 1, s => do
      blanks
      match ← peek? with
      | none => return s
      | some '#' | some '\n' | some '\r' =>
          lineEnd
          lines bound s
      | some '[' =>
          literal "["
          lines bound (← header s)
      | some _ => lines bound (← entry s)

/-- The entries of a document. A byte order mark at its beginning is skipped. -/
def parse (document : String) : Option Entries :=
  let cs := document.toList
  let cs := if cs.head? = some (Char.ofNat 0xFEFF) then cs.drop 1 else cs
  match lines (cs.length + 2) .start cs with
  | some (s, _) => s.close
  | none => none

end SyntaxExport.Toml
