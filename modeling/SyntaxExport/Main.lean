import SyntaxExport.Program

/-!
# Entry point

The files of the machine as a `Disk`, and the program run on them.
-/

namespace SyntaxExport

/-- The content of a file. One that cannot be read holds no text. -/
def readContent (path : String) : IO Content := do
  try
    match String.fromUTF8? (← IO.FS.readBinFile path) with
    | some s => return .text s
    | none => return .binary
  catch _ => return .binary

/-- What stands at a path of the machine. Directories that are never searched come without their
entries. -/
partial def machineEntry (path : String) : IO (Option Entry) := do
  let place : IO.FS.DirEntry := ⟨⟨path⟩, ""⟩
  if ← place.root.isDir then
    if Loader.isSkipped path then return some .empty
    else
      let children ← place.root.readDir
      let entries ← children.toList.mapM fun child => do
        return (← machineEntry (Path.join path child.fileName)).map fun e => (child.fileName, e)
      return some (.directory (entries.filterMap id))
  else if ← place.root.pathExists then return some (.file (← readContent path))
  else return none

/-- Makes a change, and tells whether it has succeeded. -/
def succeeds (change : IO Unit) : IO Bool := do
  try
    change
    return true
  catch _ => return false

/-- The files of the machine. -/
def Disk.machine : Disk IO where
  find? := machineEntry
  createDirectories path :=
    if path.isEmpty then return true else succeeds (IO.FS.createDirAll path)
  write path content := succeeds (IO.FS.writeFile path content)

end SyntaxExport

/-- Runs the program with the arguments of the command line. -/
def main (arguments : List String) : IO UInt32 := do
  let exit ← SyntaxExport.Program.run .machine SyntaxExport.SyntaxError.wording arguments
  let output ← IO.getStdout
  output.putStr exit.output
  output.flush
  match exit.error with
  | some message => IO.eprintln s!"Error: {message}"
  | none => if exit.code ≠ 0 then IO.eprintln "error: wrong arguments, try --help"
  return exit.code.toUInt32
