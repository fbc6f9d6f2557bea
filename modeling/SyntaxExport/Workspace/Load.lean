import SyntaxExport.Loader
import SyntaxExport.Workspace.Members

/-!
# Loading a workspace

The sources of a workspace are those below the directories of its libraries, programs and macro
libraries. A source in several of these directories belongs to the package of the first.
-/

namespace SyntaxExport.Workspace

/-- A target of a kind whose sources are loaded. -/
def isLoaded (target : Target) : Bool :=
  target.kinds.any fun kind => kind == "lib" || kind == "bin" || kind == "proc-macro"

/-- The sources below the directory of a target. -/
def collectTarget (root : Entry) (target : Target) : Except LoadError (List InputFile) :=
  match root.at? target.directory with
  | some entry => Loader.collect (some target.package) ("/".intercalate target.directory) entry
  | none => .ok []

/-- The sources of targets, in the order of the targets. -/
def collectTargets (root : Entry) : List Target → Except LoadError (List InputFile)
  | [] => .ok []
  | target :: rest =>
      match collectTarget root target with
      | .error e => .error e
      | .ok files => (collectTargets root rest).map fun others => files ++ others

/-- The sources of those targets that are loaded. -/
def sourcesOf (root : Entry) (targets : List Target) : Except LoadError (List InputFile) :=
  (collectTargets root (targets.filter isLoaded)).map Loader.arrange

/-- The sources of the workspace of a manifest. -/
def sources (root : Entry) (manifest : String) : Except LoadError (List InputFile) :=
  match targets? root manifest with
  | some targets => sourcesOf root targets
  | none => .error .workspace

/-- Loads the sources of the workspace of a manifest. -/
def load {m : Type → Type} [Monad m] (disk : Disk m) (manifest : String) :
    m (Except LoadError (List InputFile)) := do
  match ← disk.find? "." with
  | some root => return sources root manifest
  | none => return .error .workspace

end SyntaxExport.Workspace
