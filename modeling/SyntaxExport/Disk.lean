import SyntaxExport.FileTree

/-!
# Access to files

`Disk m` is what a program needs of the files around it, with effects in `m`. A file tree that is
kept in a state is one.
-/

namespace SyntaxExport

/-- Access to files: what stands at a path, and changes that tell whether they have been made. -/
structure Disk (m : Type → Type) where
  find? : (path : String) → m (Option Entry)
  createDirectories : (path : String) → m Bool
  write : (path content : String) → m Bool

namespace Disk

/-- Makes a change to the state if there is one, and tells whether. -/
def change {σ : Type} (next : σ → Option σ) : StateM σ Bool := fun s =>
  match next s with
  | some s' => (true, s')
  | none => (false, s)

/-- The files of a tree. -/
def tree : Disk (StateM Entry) where
  find? path := return (← get).find? path
  createDirectories path := change fun root => root.createDirectories? path
  write path content := change fun root => root.write? path content

/-- The text of a file. -/
def read? {m : Type → Type} [Monad m] (disk : Disk m) (path : String) : m (Option String) := do
  return (← disk.find? path).bind Entry.text?

end Disk

end SyntaxExport
