import SyntaxExport.Format

/-!
# Command line

The arguments are options, by long names behind two dashes or by letters behind one. Letters can be
written together, and a value can follow its option directly or behind an equals sign. A value of
its own does not begin with a dash. Only the inputs and folders can be given more than once.
-/

namespace SyntaxExport.CommandLine

/-- What the arguments say. -/
structure Arguments where
  inputs : List String := []
  folders : List String := []
  workspace : Option String := none
  format : Option Format := none
  output : Option String := none
  outputDirectory : Option String := none
  lineStyle : Option LineStyle := none
  config : Option String := none
  omitsTypeName : Bool := false
  resolvesTypes : Bool := false
  listsFormats : Bool := false
  isVerbose : Bool := false
  deriving DecidableEq, Repr, Inhabited

/-- An option without a value. -/
inductive Flag where
  | omitTypeName
  | resolveTypes
  | listFormats
  | verbose
  | version
  | help
  deriving DecidableEq, Repr

/-- An option with a value. -/
inductive Setting where
  | input
  | folder
  | workspace
  | format
  | output
  | outputDirectory
  | lineStyle
  | config
  deriving DecidableEq, Repr

/-- An option. -/
inductive Switch where
  | flag (f : Flag)
  | setting (s : Setting)
  deriving DecidableEq, Repr

/-- Why the arguments are not followed: they are wrong, or they only ask about the program. -/
inductive Stop where
  | usage
  | version
  | help
  deriving DecidableEq, Repr

/-- The option with a long name. -/
def Switch.ofName? : String → Option Switch
  | "input" => some (.setting .input)
  | "folder" => some (.setting .folder)
  | "workspace" => some (.setting .workspace)
  | "format" => some (.setting .format)
  | "output" => some (.setting .output)
  | "out-dir" => some (.setting .outputDirectory)
  | "no-type-name" => some (.flag .omitTypeName)
  | "resolve-types" => some (.flag .resolveTypes)
  | "ascii-format" => some (.setting .lineStyle)
  | "config" => some (.setting .config)
  | "list-formats" => some (.flag .listFormats)
  | "verbose" => some (.flag .verbose)
  | "version" => some (.flag .version)
  | "help" => some (.flag .help)
  | _ => none

/-- The option with a letter. -/
def Switch.ofLetter? : Char → Option Switch
  | 'i' => some (.setting .input)
  | 'd' => some (.setting .folder)
  | 'f' => some (.setting .format)
  | 'o' => some (.setting .output)
  | 'c' => some (.setting .config)
  | 'v' => some (.flag .verbose)
  | 'V' => some (.flag .version)
  | 'h' => some (.flag .help)
  | _ => none

namespace Arguments

/-- A value for something that has none yet. -/
def once {α : Type} (old new : Option α) : Except Stop (Option α) :=
  match old, new with
  | none, some value => .ok (some value)
  | _, _ => .error .usage

/-- A mark that has not been set yet. -/
def mark (old : Bool) : Except Stop Bool :=
  if old then .error .usage else .ok true

/-- A path, which is not empty. -/
def path? (value : String) : Option String :=
  if value.isEmpty then none else some value

/-- A further path of a list. -/
def further (old : List String) (value : String) : Except Stop (List String) :=
  if value.isEmpty then .error .usage else .ok (old ++ [value])

/-- The arguments with an option set. -/
def set (a : Arguments) (value : String) : Setting → Except Stop Arguments
  | .input => do return { a with inputs := ← further a.inputs value }
  | .folder => do return { a with folders := ← further a.folders value }
  | .workspace => do return { a with workspace := ← once a.workspace (path? value) }
  | .format => do return { a with format := ← once a.format (Format.ofName? value) }
  | .output => do return { a with output := ← once a.output (path? value) }
  | .outputDirectory => do
      return { a with outputDirectory := ← once a.outputDirectory (path? value) }
  | .lineStyle => do return { a with lineStyle := ← once a.lineStyle (LineStyle.ofName? value) }
  | .config => do return { a with config := ← once a.config (path? value) }

/-- The arguments with an option without a value. -/
def raise (a : Arguments) : Flag → Except Stop Arguments
  | .omitTypeName => do return { a with omitsTypeName := ← mark a.omitsTypeName }
  | .resolveTypes => do return { a with resolvesTypes := ← mark a.resolvesTypes }
  | .listFormats => do return { a with listsFormats := ← mark a.listsFormats }
  | .verbose => do return { a with isVerbose := ← mark a.isVerbose }
  | .version => .error .version
  | .help => .error .help

end Arguments

/-- An argument as it is written. -/
inductive Shape where
  | ending
  | long (name : String) (value : Option String)
  | letters (cs : List Char)
  | plain
  deriving DecidableEq, Repr

/-- A long name and its value behind an equals sign. -/
def splitValue (cs : List Char) : Shape :=
  let name := String.ofList (cs.takeWhile (· ≠ '='))
  match cs.dropWhile (· ≠ '=') with
  | [] => .long name none
  | _ :: value => .long name (some (String.ofList value))

/-- How an argument is written. A single dash is plain. -/
def Shape.of (argument : String) : Shape :=
  match argument.toList with
  | ['-', '-'] => .ending
  | '-' :: '-' :: cs => splitValue cs
  | '-' :: c :: cs => .letters (c :: cs)
  | _ => .plain

/-- Follows letters written together. The result has the option that still waits for its value. -/
def readLetters (a : Arguments) : List Char → Except Stop (Arguments × Option Setting)
  | [] => .ok (a, none)
  | c :: rest =>
      match Switch.ofLetter? c with
      | none => .error .usage
      | some (.flag f) => do readLetters (← a.raise f) rest
      | some (.setting s) =>
          match rest with
          | [] => .ok (a, some s)
          | '=' :: value => do return (← a.set (String.ofList value) s, none)
          | value => do return (← a.set (String.ofList value) s, none)

/-- Follows arguments one after the other. `waiting` is an option whose value comes next. -/
def readFrom (a : Arguments) :
    (waiting : Option Setting) → List String → Except Stop Arguments
  | none, [] => .ok a
  | some _, [] => .error .usage
  | some s, argument :: rest =>
      match Shape.of argument with
      | .plain => do readFrom (← a.set argument s) none rest
      | _ => .error .usage
  | none, argument :: rest =>
      match Shape.of argument with
      | .plain => .error .usage
      | .ending => if rest.isEmpty then .ok a else .error .usage
      | .letters cs => do
          let (a, waiting) ← readLetters a cs
          readFrom a waiting rest
      | .long name value =>
          match Switch.ofName? name, value with
          | some (.flag f), none => do readFrom (← a.raise f) none rest
          | some (.setting s), some value => do readFrom (← a.set value s) none rest
          | some (.setting s), none => readFrom a (some s) rest
          | _, _ => .error .usage

/-- What arguments say. -/
def read (arguments : List String) : Except Stop Arguments :=
  readFrom {} none arguments

end SyntaxExport.CommandLine
