import SyntaxExport.Disk
import SyntaxExport.InputFile
import SyntaxExport.Path

/-!
# Loading sources

Sources are loaded from a file, or from all files below a directory that are Rust sources by their
extension. Directories for build results and version control are not searched. The order of the
result is that of the paths, whatever the order in which directories list their entries.
-/

namespace SyntaxExport

/-- Why sources cannot be loaded. -/
inductive LoadError where
  | unreadable (path : String)
  | workspace
  deriving DecidableEq, Repr

/-- The message about sources that cannot be loaded. -/
def LoadError.message : LoadError → String
  | unreadable path => s!"Failed to read file {path}"
  | workspace => "Failed to execute cargo metadata"

namespace Loader

/-- The path ends with the name of a directory that is not searched. -/
def isSkipped (path : String) : Bool :=
  match Path.fileName? path with
  | some name => name == "target" || name == ".git"
  | none => false

/-- The path is that of a source by its extension. -/
def isSource (path : String) : Bool :=
  Path.extension? path == some "rs"

/-- The source that a file at a path is. -/
def read (package : Option String) (path : String) : Content → Except LoadError InputFile
  | .text s => .ok ⟨path, package, s⟩
  | .binary => .error (.unreadable path)

mutual

/-- The sources at a path: the file itself, or those below the directory. -/
def collect (package : Option String) (path : String) : Entry → Except LoadError (List InputFile)
  | .file content =>
      if isSkipped path || !isSource path then .ok []
      else (read package path content).map fun file => [file]
  | .directory entries =>
      if isSkipped path then .ok [] else collectAll package path entries

/-- The sources among the entries of a directory. -/
def collectAll (package : Option String) (path : String) :
    List (String × Entry) → Except LoadError (List InputFile)
  | [] => .ok []
  | (name, entry) :: rest =>
      match collect package (Path.join path name) entry with
      | .error e => .error e
      | .ok files => (collectAll package path rest).map fun others => files ++ others

end

/-- Of neighbours with the same path, only the first. -/
def dropRepeated : List InputFile → List InputFile
  | [] => []
  | file :: rest =>
      match dropRepeated rest with
      | [] => [file]
      | next :: others =>
          if Path.same file.path next.path then file :: others else file :: next :: others

/-- Sources in the order of their paths, each path once. Of several with the same path the first
stays. -/
def arrange (files : List InputFile) : List InputFile :=
  dropRepeated (files.mergeSort fun a b => Path.le a.path b.path)

/-- The source in what stands at a path. -/
def fileIn (path : String) : Option Entry → Except LoadError InputFile
  | some (.file content) => read none path content
  | _ => .error (.unreadable path)

/-- The sources in what stands at a path; none if there is nothing. -/
def folderIn (path : String) : Option Entry → Except LoadError (List InputFile)
  | some entry => (collect none path entry).map arrange
  | none => .ok []

variable {m : Type → Type} [Monad m]

/-- Loads one source. -/
def file (disk : Disk m) (path : String) : m (Except LoadError InputFile) := do
  return fileIn path (← disk.find? path)

/-- Loads the sources below a directory. -/
def folder (disk : Disk m) (path : String) : m (Except LoadError (List InputFile)) := do
  return folderIn path (← disk.find? path)

end Loader

end SyntaxExport
