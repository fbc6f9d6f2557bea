import SyntaxExport.Batch
import SyntaxExport.CommandLine
import SyntaxExport.Config
import SyntaxExport.Text.Width
import SyntaxExport.Workspace.Load

/-!
# The program

`Program.run` follows the arguments of the command line: it loads the configuration and the
sources, and writes the document of a single source, or those of a batch into a directory. The
command line counts more than the configuration.
-/

namespace SyntaxExport.Program

open CommandLine (Arguments Stop)

/-- Why a run fails. -/
inductive Failure where
  | config (e : ConfigError)
  | load (e : LoadError)
  | noSource
  | manySources (count : Nat)
  | syntaxError (path : String)
  | write (e : WriteError)
  | nothingExported
  deriving DecidableEq, Repr

/-- The message about a failure. -/
def Failure.message : Failure → String
  | config e => e.message
  | load e => e.message
  | noSource =>
      "Please provide at least one --input <file>, --folder <dir> or --workspace <Cargo.toml>"
  | manySources count =>
      s!"{count} source files found; use --out-dir <dir> to export more than one"
  | syntaxError path => s!"Failed to parse {path}"
  | write e => e.message
  | nothingExported => "No file could be exported"

/-- How a run ends: the exit code, the text on the standard output and the message of an error. -/
structure Exit where
  code : Nat
  output : String
  error : Option String
  deriving DecidableEq, Repr

/-- One line about every format. -/
def formatList : String :=
  String.join (Format.all.map fun format =>
    Text.padEnd format.name 9 ++ Text.padEnd ("." ++ format.extension) 10 ++ format.description ++
      "\n")

/-- The name and version of the program. -/
def versionLine : String :=
  "ast_lens 0.1.0\n"

/-- How the program is used. -/
def helpText : String :=
  "Usage: ast_lens [OPTIONS]\n\nOptions:\n" ++ String.join [
    "  -i, --input <INPUT>                Input source file path (can specify multiple)\n",
    "  -d, --folder <FOLDER>              Input source folder(s)\n",
    "      --workspace <WORKSPACE>        Workspace Cargo.toml\n",
    "  -f, --format <FORMAT>              Output format (dot, json, cypher, graphml, ascii)\n",
    "  -o, --output <OUTPUT>              Output file for a single input (stdout when absent)\n",
    "      --out-dir <OUT_DIR>            Output directory for batch exports\n",
    "      --no-type-name                 Omit node type names from the output\n",
    "      --resolve-types                Annotate DOT nodes with best-effort expression types\n",
    "      --ascii-format <ASCII_FORMAT>  " ++
      "Line format of the ASCII tree (summary-type-range, summary-type)\n",
    "  -c, --config <CONFIG>              TOML configuration file\n",
    "      --list-formats                 List the supported formats and exit\n",
    "  -v, --verbose                      Verbose logging\n",
    "  -h, --help                         Print help\n",
    "  -V, --version                      Print version\n"]

/-- The options of a run. -/
def mergedOptions (a : Arguments) (o : Options) : Options where
  includeTypeName := o.includeTypeName && !a.omitsTypeName
  resolveTypes := o.resolveTypes || a.resolvesTypes
  lineStyle := a.lineStyle.getD o.lineStyle

variable {m : Type → Type} [Monad m]

/-- Loads single files; those that cannot be read are left out. -/
def loadFiles (disk : Disk m) : List String → m (List InputFile)
  | [] => return []
  | path :: rest => do
      let first ← Loader.file disk path
      let others ← loadFiles disk rest
      match first with
      | .ok file => return file :: others
      | .error _ => return others

/-- Loads what is below folders. -/
def loadFolders (disk : Disk m) : List String → m (Except LoadError (List InputFile))
  | [] => return .ok []
  | path :: rest => do
      match ← Loader.folder disk path with
      | .error e => return .error e
      | .ok files => return (← loadFolders disk rest).map fun others => files ++ others

/-- Loads the sources that the arguments name: files, folders, and a workspace. -/
def loadSources (disk : Disk m) (a : Arguments) : m (Except LoadError (List InputFile)) := do
  let files ← loadFiles disk a.inputs
  match ← loadFolders disk a.folders with
  | .error e => return .error e
  | .ok below =>
      match a.workspace with
      | none => return .ok (files ++ below)
      | some manifest =>
          return (← Workspace.load disk manifest).map fun members => files ++ below ++ members

/-- Exports a single source to a file, or to the standard output. The result is what goes there. -/
def exportSingle (disk : Disk m) (format : Format) (options : Options) (file : InputFile)
    (output : Option String) : m (Except Failure String) := do
  match Source.write file.content format options, output with
  | .error _, _ => return .error (.syntaxError file.path)
  | .ok document, none => return .ok document.text
  | .ok document, some path =>
      if ← disk.write path document.text then return .ok ""
      else return .error (.write (.file path))

/-- Exports sources into a directory. At least one of them has to be exported. -/
def exportBatch (disk : Disk m) (words : SyntaxError → String) (format : Format)
    (options : Options) (files : List InputFile) (directory : String) :
    m (Except Failure String) := do
  match ← Batch.write disk words format options (Batch.run format options files) directory with
  | .error e => return .error (.write e)
  | .ok manifest =>
      if manifest.exported = 0 then return .error .nothingExported else return .ok ""

/-- Exports what has been loaded. -/
def exportSources (disk : Disk m) (words : SyntaxError → String) (a : Arguments) (config : Config)
    (files : List InputFile) : m (Except Failure String) :=
  let format := a.format.getD config.format
  let options := mergedOptions a config.options
  match files, a.outputDirectory with
  | [], _ => return .error .noSource
  | files, some directory => exportBatch disk words format options files directory
  | [file], none => exportSingle disk format options file a.output
  | files, none => return .error (.manySources files.length)

/-- Follows arguments that ask for an export. The result is the text on the standard output. -/
def follow (disk : Disk m) (words : SyntaxError → String) (a : Arguments) :
    m (Except Failure String) := do
  if a.listsFormats then return .ok formatList
  else
    match ← Config.load disk a.config with
    | .error e => return .error (.config e)
    | .ok config =>
        match ← loadSources disk a with
        | .error e => return .error (.load e)
        | .ok files => exportSources disk words a config files

/-- Runs the program. Wrong arguments end it with code 2, and a failure with code 1. -/
def run (disk : Disk m) (words : SyntaxError → String) (arguments : List String) : m Exit := do
  match CommandLine.read arguments with
  | .error .usage => return ⟨2, "", none⟩
  | .error .version => return ⟨0, versionLine, none⟩
  | .error .help => return ⟨0, helpText, none⟩
  | .ok a =>
      match ← follow disk words a with
      | .ok output => return ⟨0, output, none⟩
      | .error failure => return ⟨1, "", some failure.message⟩

end SyntaxExport.Program
