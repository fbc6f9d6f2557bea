import SyntaxExport.Workspace.Package

/-!
# Members of a workspace

A manifest with a workspace lists the directories of its members, also by patterns. A package below
such a manifest belongs to its workspace. `Workspace.targets?` gives the targets of all members, in
the order they are listed, and those of the package at the top last.
-/

namespace SyntaxExport.Workspace

open Toml (Entries)
open Package (manifest? table? texts? reading?)

/-! ## Patterns -/

/-- A name matches a pattern, in which a star stands for any characters and a question mark for
one. -/
def matchesName : (pattern name : List Char) → Bool
  | [], name => name.isEmpty
  | '*' :: pattern, [] => matchesName pattern []
  | '*' :: pattern, d :: name =>
      matchesName pattern (d :: name) || matchesName ('*' :: pattern) name
  | c :: pattern, d :: name => (c == '?' || c == d) && matchesName pattern name
  | _ :: _, [] => false
termination_by pattern name => pattern.length + name.length

/-- A part of a path is a pattern. -/
def isPattern (name : String) : Bool :=
  name.contains '*' || name.contains '?'

/-- The places below a directory that match the parts of a pattern, in the order of their names. -/
def expand (root : Entry) : (place parts : List String) → List (List String)
  | place, [] => if (root.at? place).isSome then [place] else []
  | place, part :: rest =>
      if isPattern part then
        let names := (((root.at? place).map Entry.entries).getD []).map Prod.fst
        let fitting := names.filter fun name => matchesName part.toList name.toList
        (fitting.mergeSort fun a b => decide (a ≤ b)).flatMap fun name =>
          expand root (place ++ [name]) rest
      else expand root (place ++ [part]) rest

/-- The directories that a member stands for. One that matches nothing stands for itself. -/
def memberPlaces (root : Entry) (top : List String) (member : String) : List (List String) :=
  let place := Package.inside top member
  match expand root top (place.drop top.length) with
  | [] => [place]
  | places => places.filter fun place => ((root.at? place).map Entry.isDirectory).getD false

/-! ## Members -/

/-- A workspace: its directory, and the members and exceptions that its manifest lists. -/
structure Definition where
  top : List String
  members : List String
  excluded : List String

/-- The workspace that a manifest defines; none if it defines none. The outer option is none if the
manifest is wrong. -/
def ofManifest? (top : List String) (entries : Entries) : Option (Option Definition) := do
  match ← reading? table? (entries.lookup "workspace") with
  | none => return none
  | some workspace =>
      let members ← reading? texts? (workspace.lookup "members")
      let excluded ← reading? texts? (workspace.lookup "exclude")
      return some ⟨top, members.getD [], excluded.getD []⟩

/-- A place is left out of a workspace: it is below an exception, and below no listed member. -/
def Definition.isExcluded (w : Definition) (place : List String) : Bool :=
  let isBelow (path : String) : Bool := (Package.inside w.top path).isPrefixOf place
  w.excluded.any isBelow && !w.members.any isBelow

/-- The workspace of one of the directories above a place, the nearest first. -/
def above? (root : Entry) : (steps : Nat) → (place : List String) → Option (Option Definition)
  | 0, _ => some none
  | steps + 1, place =>
      if place.isEmpty then some none
      else
        let up := place.dropLast
        match manifest? root up with
        | none => above? root steps up
        | some none => none
        | some (some entries) => do
            match ← ofManifest? up entries with
            | some w => return some w
            | none => above? root steps up

/-- The directories of the members of a workspace, each once. -/
def Definition.places (root : Entry) (w : Definition) : List (List String) :=
  ((w.members.flatMap (memberPlaces root w.top)).filter fun place => !w.isExcluded place).eraseDups

/-- The targets of a member. It has a package, stands below the workspace and defines none itself.
-/
def memberTargets? (root : Entry) (w : Definition) (place : List String) :
    Option (List Target) := do
  let entries ← (manifest? root place).join
  if w.top.isPrefixOf place && ((entries.lookup "workspace").isNone || place == w.top) then
    Package.targets? root place entries
  else none

/-- The targets of a package at the top of a workspace, if there is one. -/
def topTargets? (root : Entry) (w : Definition) (entries : Entries) : Option (List Target) :=
  if (entries.lookup "package").isSome then Package.targets? root w.top entries else some []

/-- The targets of all members of a workspace, whose manifest has these entries. Packages have
different names. -/
def Definition.targets? (root : Entry) (w : Definition) (entries : Entries) :
    Option (List Target) := do
  let places := (w.places root).filter (· ≠ w.top)
  let listed ← places.mapM (memberTargets? root w)
  let all := listed ++ [← topTargets? root w entries]
  let names := all.filterMap fun targets => targets.head?.map Target.package
  if names.eraseDups.length = names.length then some all.flatten else none

/-- The targets of the workspace that the package in a directory belongs to, or of the package
alone. -/
def targetsAt? (root : Entry) (place : List String) : Option (List Target) := do
  let entries ← (manifest? root place).join
  match ← ofManifest? place entries with
  | some w => w.targets? root entries
  | none =>
      let found ← above? root place.length place
      match found.filter fun w => !w.isExcluded place with
      | none => Package.targets? root place entries
      | some w =>
          if (w.places root).contains place then
            w.targets? root (← (manifest? root w.top).join)
          else none

/-- The targets of the workspace of a manifest. -/
def targets? (root : Entry) (manifest : String) : Option (List Target) := do
  let place ← root.place? manifest
  if place.getLast? == some Package.manifestName && !manifest.endsWith "/" then
    targetsAt? root place.dropLast
  else none

end SyntaxExport.Workspace
