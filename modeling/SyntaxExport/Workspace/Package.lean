import SyntaxExport.FileTree
import SyntaxExport.Path
import SyntaxExport.Text.Identifier
import SyntaxExport.Toml.Document

/-!
# Packages

The manifest of a package names it. What is built from it are its targets, which are found by where
their sources stand, or by what the manifest says of them.
-/

namespace SyntaxExport

/-- Something that is built from a package: its kinds, and the directory in which its source
stands. -/
structure Target where
  package : String
  kinds : List String
  directory : List String
  deriving DecidableEq, Repr

namespace Package

open Toml (Value Entries)

/-- The name of a manifest. -/
def manifestName : String :=
  "Cargo.toml"

/-- The manifest in a directory: none if there is none, and `some none` if it cannot be read. -/
def manifest? (root : Entry) (place : List String) : Option (Option Entries) :=
  (root.at? (place ++ [manifestName])).map fun entry => entry.text?.bind Toml.parse

/-! ## Values -/

/-- The entries of a table. -/
def table? : Value → Option Entries
  | .table _ entries => some entries
  | _ => none

/-- The text that a value is. -/
def text? : Value → Option String
  | .text s => some s
  | _ => none

/-- The texts that a value lists. -/
def texts? : Value → Option (List String)
  | .array items => items.mapM text?
  | _ => none

/-- What a value means if it is there. -/
def reading? {α : Type} (read : Value → Option α) : Option Value → Option (Option α)
  | some v => (read v).map some
  | none => some none

/-- The value of a key in one of two spellings. -/
def either (entries : Entries) (key other : String) : Option Value :=
  (entries.lookup key).or (entries.lookup other)

/-- A package can have this name. -/
def isName (name : String) : Bool :=
  match name.toList with
  | [] => false
  | first :: rest =>
      (first == '_' || Text.isIdentifierStart first) &&
        rest.all fun c => c == '-' || Text.isIdentifierContinue c

/-! ## Targets -/

/-- The names that a path inside of a package leads to. -/
def inside (place : List String) (path : String) : List String :=
  (Path.components path).foldl
    (fun names part =>
      match part with
      | .root => []
      | .current => names
      | .parent => names.dropLast
      | .name s => names ++ [s])
    place

/-- Something stands at a place. -/
def isThere (root : Entry) (place : List String) : Bool :=
  (root.at? place).isSome

/-- The source of a target that an entry of a directory of targets stands for: a source, or a
directory with a main source. Hidden entries do not count. -/
def targetIn? (place : List String) (entry : String × Entry) : Option (List String) :=
  if entry.1.startsWith "." then none
  else if Path.extensionOf? entry.1 == some "rs" then some (place ++ [entry.1])
  else if isThere entry.2 ["main.rs"] then some (place ++ [entry.1, "main.rs"])
  else none

/-- The sources of the targets in a directory. -/
def targetsIn (root : Entry) (place : List String) : List (List String) :=
  match root.at? place with
  | some entry => entry.entries.filterMap (targetIn? place)
  | none => []

/-- The kinds of a library. A macro library has no other kind. -/
def libraryKinds? (kinds : Option (List String)) (isMacro : Bool) : Option (List String) :=
  match kinds with
  | none => some [if isMacro then "proc-macro" else "lib"]
  | some kinds =>
      if kinds.contains "dylib" && kinds.contains "cdylib" then none
      else if kinds.contains "proc-macro" then if kinds.length = 1 then some kinds else none
      else if isMacro then some ["proc-macro"]
      else some kinds

/-- The truth value that a value is. -/
def boolean? : Value → Option Bool
  | .boolean b => some b
  | _ => none

/-- The library of a package: what its manifest says, and where its source stands otherwise. The
outer option is none if the manifest is wrong. -/
def library? (root : Entry) (place : List String) (name : String) (entries : Entries) :
    Option (Option Target) := do
  let source := place ++ ["src", "lib.rs"]
  match ← reading? table? (entries.lookup "lib") with
  | none => return if isThere root source then some ⟨name, ["lib"], source.dropLast⟩ else none
  | some library =>
      let path ← reading? text? (library.lookup "path")
      let listed ← reading? texts? (either library "crate-type" "crate_type")
      let isMacro ← reading? boolean? (either library "proc-macro" "proc_macro")
      let kinds ← libraryKinds? listed (isMacro.getD false)
      match path with
      | some path => return some ⟨name, kinds, (inside place path).dropLast⟩
      | none => if isThere root source then return some ⟨name, kinds, source.dropLast⟩ else none

/-- The sources of the programs of a package that its manifest does not name. -/
def programs (root : Entry) (place : List String) : List (List String) :=
  let source := place ++ ["src", "main.rs"]
  (if isThere root source then [source] else []) ++ targetsIn root (place ++ ["src", "bin"])

/-- The source of a program that a manifest names: at a path of its own, or where programs stand by
themselves. -/
def namedProgram? (place : List String) (found : List (List String)) (name : String)
    (entries : Entries) : Option (List String) := do
  let program ← (entries.lookup "name").bind text?
  match ← reading? text? (entries.lookup "path") with
  | some path => return inside place path
  | none =>
      let places := [place ++ ["src", "bin", program ++ ".rs"],
        place ++ ["src", "bin", program, "main.rs"]] ++
        if program == name then [place ++ ["src", "main.rs"]] else []
      places.find? found.contains

/-- The tables that a value lists. -/
def tables? : Value → Option (List Entries)
  | .tables items => some items
  | .array items => items.mapM table?
  | _ => none

/-- The targets of the package in a directory, whose manifest has these entries. A package needs a
name and at least one target; those for tests and the like count only for that. -/
def targets? (root : Entry) (place : List String) (entries : Entries) : Option (List Target) := do
  let package ← (entries.lookup "package").bind table?
  let name ← (package.lookup "name").bind text?
  if !isName name then none
  else
    let library ← library? root place name entries
    let found := programs root place
    let listed ← reading? tables? (entries.lookup "bin")
    let named ← (listed.getD []).mapM (namedProgram? place found name)
    let others := ["tests", "examples", "benches"].flatMap fun directory =>
      targetsIn root (place ++ [directory])
    let own := library.toList ++ (found ++ named).map fun source => ⟨name, ["bin"], source.dropLast⟩
    if own.isEmpty && others.isEmpty then none else some own

end Package

end SyntaxExport
