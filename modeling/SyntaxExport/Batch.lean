import SyntaxExport.Disk
import SyntaxExport.Export
import SyntaxExport.InputFile
import SyntaxExport.Manifest
import SyntaxExport.OutputName
import SyntaxExport.Path

/-!
# Batches

A batch exports many sources into one directory. What is written under which name is fixed before
anything is written: `Batch.plan` gives every document a name of its own, and no document takes the
name of the manifest. The manifest is written last, so that it only stands beside documents that are
there.
-/

namespace SyntaxExport

/-- What came of exporting a source. -/
structure Outcome where
  path : String
  package : Option String
  result : Except SyntaxError Document

/-- Why a document could not be written. -/
inductive WriteError where
  | directory (path : String)
  | file (path : String)
  deriving DecidableEq, Repr

/-- The message about a failed write. -/
def WriteError.message : WriteError → String
  | directory path => s!"Failed to create output directory {path}"
  | file path => s!"Failed to write {path}"

namespace Batch

/-- Exports every source on its own. -/
def run (format : Format) (options : Options) (files : List InputFile) : List Outcome :=
  files.map fun file => ⟨file.path, file.package, Source.write file.content format options⟩

/-- An outcome with the name its document is written under. -/
structure Planned where
  outcome : Outcome
  name : Option String

/-- Gives every document a name that is not taken. Failures take no name. -/
def planFrom (format : Format) : (taken : List String) → List Outcome → List Planned
  | _, [] => []
  | taken, outcome :: rest =>
      match outcome.result with
      | .ok _ =>
          let chosen := OutputName.unique taken outcome.path format
          ⟨outcome, some chosen.1⟩ :: planFrom format chosen.2 rest
      | .error _ => ⟨outcome, none⟩ :: planFrom format taken rest

/-- The names of a batch. -/
def plan (format : Format) (outcomes : List Outcome) : List Planned :=
  planFrom format [Manifest.fileName] outcomes

/-- The document that is written for an outcome, and its name. -/
def Planned.document? (p : Planned) : Option (String × String) :=
  match p.outcome.result, p.name with
  | .ok document, some name => some (name, document.text)
  | _, _ => none

/-- The line of the manifest about an outcome. -/
def Planned.entry (words : SyntaxError → String) (p : Planned) : ManifestEntry :=
  match p.outcome.result with
  | .ok document => ⟨p.outcome.path, p.outcome.package, p.name, document.nodeCount, none⟩
  | .error e =>
      ⟨p.outcome.path, p.outcome.package, none, 0, some (e.message words p.outcome.path)⟩

/-- The manifest of a batch. -/
def manifest (words : SyntaxError → String) (format : Format) (options : Options)
    (outcomes : List Outcome) : Manifest :=
  ⟨format.name, options.includeTypeName, (plan format outcomes).map (Planned.entry words)⟩

variable {m : Type → Type} [Monad m]

/-- Writes files into a directory one after the other, up to the first that cannot be written. -/
def writeAll (disk : Disk m) (directory : String) :
    List (String × String) → m (Except WriteError Unit)
  | [] => return .ok ()
  | (name, content) :: rest => do
      let target := Path.join directory name
      if ← disk.write target content then writeAll disk directory rest
      else return .error (.file target)

/-- Writes the documents of a batch into a directory, and then the manifest. -/
def write (disk : Disk m) (words : SyntaxError → String) (format : Format) (options : Options)
    (outcomes : List Outcome) (directory : String) : m (Except WriteError Manifest) := do
  if ← disk.createDirectories directory then
    let result := manifest words format options outcomes
    let documents := (plan format outcomes).filterMap Planned.document?
    match ← writeAll disk directory (documents ++ [(Manifest.fileName, result.render)]) with
    | .ok () => return .ok result
    | .error e => return .error e
  else return .error (.directory directory)

end Batch

end SyntaxExport
