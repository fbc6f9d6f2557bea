import SyntaxExport.Program
import SyntaxExport.Proofs.Batch

/-!
# How runs end

A run reads the configuration and the sources first and changes nothing while it does. What it
writes afterwards depends on one question: whether the arguments name a directory for the output.
Without one, the document of a single source is all that leaves the program. With one, the files of
a batch are written into it and nothing is shown.

Results:
1. `loads_or_fails`: a run loads what the tree holds, or it fails and the tree stays as it is.
2. `succeeds_follow`: without a directory a run succeeds whenever it can, and else changes nothing.
3. `content?_writeAll`: a batch changes its own files only, also where it stops halfway.
4. `run_ends`: when a run succeeds, what it shows, and what it writes.
-/

namespace SyntaxExport.Program

open CommandLine (Arguments)

/-! ## What is loaded -/

/-- The configuration that arguments name, or the usual one. -/
def Configures (root : Entry) : Option String → Config → Prop
  | none, config => config = {}
  | some path, config => ((root.find? path).bind Entry.text?).bind Config.parse? = some config

/-- The sources among single files. Those that cannot be read are left out. -/
def readable (root : Entry) (paths : List String) : List InputFile :=
  paths.filterMap fun path => (Loader.fileIn path (root.find? path)).toOption

/-- The sources below folders, each of which can be read. -/
def Below (root : Entry) (paths : List String) (files : List InputFile) : Prop :=
  ∃ parts, List.Forall₂ (fun path part => Loader.folderIn path (root.find? path) = .ok part) paths
    parts ∧ files = parts.flatten

/-- The sources of a workspace, if there is one. -/
def Members (root : Entry) : Option String → List InputFile → Prop
  | none, files => files = []
  | some manifest, files =>
      ∃ top, root.find? "." = some top ∧ Workspace.sources top manifest = .ok files

/-- The configuration and the sources of a run. -/
structure Loads (root : Entry) (a : Arguments) (config : Config) (files : List InputFile) :
    Prop where
  configures : Configures root a.config config
  sources : ∃ below members, Below root a.folders below ∧ Members root a.workspace members ∧
    files = readable root a.inputs ++ below ++ members

theorem below_cons {root : Entry} {path : String} {rest : List String} {files : List InputFile} :
    Below root (path :: rest) files ↔ ∃ part, Loader.folderIn path (root.find? path) = .ok part ∧
      ∃ others, Below root rest others ∧ files = part ++ others := by
  unfold Below
  constructor
  · rintro ⟨parts, aligned, rfl⟩
    obtain ⟨part, others, here, later, rfl⟩ := List.forall₂_cons_left_iff.mp aligned
    exact ⟨part, here, others.flatten, ⟨others, later, rfl⟩, List.flatten_cons⟩
  · rintro ⟨part, here, _, ⟨others, later, rfl⟩, rfl⟩
    exact ⟨part :: others, .cons here later, List.flatten_cons.symm⟩

/-! ## Reading -/

section Reading

variable {σ ε α β : Type}

theorem bind_of_eq {action : StateM σ α} {s s' : σ} {value : α} (ran : action s = (value, s'))
    (next : α → StateM σ β) : (action >>= next) s = next value s' := by
  simp only [bind, StateT.bind, ran]

/-- The action leaves the tree as it is, and succeeds with exactly what is specified. -/
def Reads (action : StateM Entry (Except ε α)) (root : Entry) (specified : α → Prop) : Prop :=
  ∃ result, action root = (result, root) ∧ ∀ value, result = .ok value ↔ specified value

namespace Reads

variable {root : Entry} {action : StateM Entry (Except ε α)} {specified : α → Prop}

theorem congr {specified' : α → Prop} (reads : Reads action root specified)
    (same : ∀ value, specified value ↔ specified' value) : Reads action root specified' := by
  obtain ⟨result, ran, right⟩ := reads
  exact ⟨result, ran, fun value => (right value).trans (same value)⟩

/-- An action that looks at the tree before. -/
theorem after {look : StateM Entry β} {seen : β} (looked : look root = (seen, root))
    {next : β → StateM Entry (Except ε α)} (reads : Reads (next seen) root specified) :
    Reads (look >>= next) root specified := by
  unfold Reads
  rw [bind_of_eq looked]
  exact reads

/-- What is specified is one value at most. -/
theorem unique (reads : Reads action root specified) {x y : α} (left : specified x)
    (right : specified y) : x = y := by
  obtain ⟨result, -, exactly⟩ := reads
  have same := (exactly x).mpr left
  rw [(exactly y).mpr right] at same
  exact (Except.ok.inj same).symm

theorem map (reads : Reads action root specified) (f : α → β) :
    Reads (do return (← action).map f) root fun y => ∃ x, specified x ∧ y = f x := by
  obtain ⟨result, ran, right⟩ := reads
  refine ⟨result.map f, bind_of_eq ran _, fun y => ?_⟩
  simp only [← right]
  cases result <;> simp [Except.map, eq_comm]

/-- An action that goes on where the first one succeeds. -/
theorem andThen (reads : Reads action root specified)
    {next : Except ε α → StateM Entry (Except ε β)} {later : α → β → Prop}
    (stops : ∀ e, next (.error e) = pure (.error e))
    (step : ∀ x, Reads (next (.ok x)) root (later x)) :
    Reads (action >>= next) root fun y => ∃ x, specified x ∧ later x y := by
  obtain ⟨result, ran, right⟩ := reads
  unfold Reads
  rw [bind_of_eq ran]
  simp only [← right]
  cases result with
  | error e =>
    rw [stops]
    exact ⟨_, rfl, fun y => by simp⟩
  | ok x =>
    obtain ⟨final, ended, exactly⟩ := step x
    exact ⟨final, ended, fun y => by simp [exactly]⟩

end Reads

theorem reads_config (path : Option String) (root : Entry) :
    Reads (Config.load Disk.tree path) root (Configures root path) := by
  cases path with
  | none => exact ⟨.ok {}, rfl, fun config => by simp [Configures, eq_comm]⟩
  | some path =>
    have read : Disk.tree.read? path root = ((root.find? path).bind Entry.text?, root) := rfl
    unfold Config.load
    refine Reads.after read ?_
    show Reads _ root fun config =>
      ((root.find? path).bind Entry.text?).bind Config.parse? = some config
    cases (root.find? path).bind Entry.text? with
    | none => exact ⟨_, rfl, fun config => by simp⟩
    | some document =>
      simp only [Option.bind_some]
      cases Config.parse? document with
      | none => exact ⟨_, rfl, fun config => by simp⟩
      | some parsed => exact ⟨_, rfl, fun config => by simp⟩

theorem loadFiles_tree (paths : List String) (root : Entry) :
    loadFiles Disk.tree paths root = (readable root paths, root) := by
  induction paths with
  | nil => rfl
  | cons path rest ih =>
    have first : Loader.file Disk.tree path root =
        (Loader.fileIn path (root.find? path), root) := rfl
    unfold loadFiles
    rw [bind_of_eq first, bind_of_eq ih]
    cases found : Loader.fileIn path (root.find? path) with
    | ok file =>
      have kept : readable root (path :: rest) = file :: readable root rest := by
        rw [readable, List.filterMap_cons, found]
        rfl
      rw [kept]
      rfl
    | error e =>
      have skipped : readable root (path :: rest) = readable root rest := by
        rw [readable, List.filterMap_cons, found]
        rfl
      rw [skipped]
      rfl

theorem reads_folders (paths : List String) (root : Entry) :
    Reads (loadFolders Disk.tree paths) root (Below root paths) := by
  induction paths with
  | nil =>
    refine ⟨.ok [], rfl, fun files => ?_⟩
    simp [Below, eq_comm]
  | cons path rest ih =>
    have first : Reads (Loader.folder Disk.tree path) root
        (Loader.folderIn path (root.find? path) = .ok ·) := ⟨_, rfl, fun _ => Iff.rfl⟩
    unfold loadFolders
    refine Reads.congr (first.andThen (fun _ => rfl) fun part => ?_) fun _ => below_cons.symm
    exact ih.map (part ++ ·)

theorem reads_members (workspace : Option String) (root : Entry) (others : List InputFile) :
    Reads (match workspace with
      | none => return .ok others
      | some manifest => do
          return (← Workspace.load Disk.tree manifest).map fun members => others ++ members) root
      fun files => ∃ members, Members root workspace members ∧ files = others ++ members := by
  cases workspace with
  | none =>
    refine ⟨.ok others, rfl, fun files => ?_⟩
    simp [Members, eq_comm]
  | some manifest =>
    have found : Disk.tree.find? "." root = (root.find? ".", root) := rfl
    refine Reads.map ?_ _
    unfold Workspace.load
    refine Reads.after found ?_
    unfold Members
    cases root.find? "." with
    | none => exact ⟨_, rfl, fun files => by simp⟩
    | some top => exact ⟨_, rfl, fun files => by simp⟩

theorem reads_sources (a : Arguments) (root : Entry) :
    Reads (loadSources Disk.tree a) root fun files => ∃ below members,
      Below root a.folders below ∧ Members root a.workspace members ∧
        files = readable root a.inputs ++ below ++ members := by
  unfold loadSources
  refine Reads.after (loadFiles_tree a.inputs root) ?_
  refine Reads.congr ((reads_folders a.folders root).andThen (fun _ => rfl) fun below =>
    reads_members a.workspace root (readable root a.inputs ++ below)) fun files => ?_
  simp only [exists_and_left]

end Reading

theorem Loads.unique {root : Entry} {a : Arguments} {config config' : Config}
    {files files' : List InputFile} (loads : Loads root a config files)
    (loads' : Loads root a config' files') : config' = config ∧ files' = files :=
  ⟨(reads_config a.config root).unique loads'.configures loads.configures,
    (reads_sources a root).unique loads'.sources loads.sources⟩

/-- A run goes on with what has been loaded, or it fails before it changes anything. -/
theorem loads_or_fails (words : SyntaxError → String) {a : Arguments}
    (exports : a.listsFormats = false) (root : Entry) :
    (∃ config files, Loads root a config files ∧
      follow Disk.tree words a root = exportSources Disk.tree words a config files root) ∨
    (∃ failure, follow Disk.tree words a root = (.error failure, root)) ∧
      ∀ config files, ¬ Loads root a config files := by
  obtain ⟨configured, ranConfig, rightConfig⟩ := reads_config a.config root
  obtain ⟨loaded, ranSources, rightSources⟩ := reads_sources a root
  unfold follow
  simp only [exports, Bool.false_eq_true, if_false]
  rw [bind_of_eq ranConfig]
  cases configured with
  | error e =>
    refine .inr ⟨⟨_, rfl⟩, fun config files loads => ?_⟩
    cases (rightConfig config).mpr loads.configures
  | ok config =>
    dsimp only
    rw [bind_of_eq ranSources]
    cases loaded with
    | error e =>
      refine .inr ⟨⟨_, rfl⟩, fun config files loads => ?_⟩
      cases (rightSources files).mpr loads.sources
    | ok files =>
      exact .inl ⟨config, files, ⟨(rightConfig config).mp rfl, (rightSources files).mp rfl⟩, rfl⟩

/-! ## Single documents -/

/-- The document of a source, as the arguments and the configuration ask for it. -/
def exported (a : Arguments) (config : Config) (file : InputFile) : Except SyntaxError Document :=
  Source.write file.content (a.format.getD config.format) (mergedOptions a config.options)

/-- A document goes to the standard output, or to the file that is named for it. -/
inductive Delivers (root : Entry) (document : Document) : Option String → String → Entry → Prop
  | shown : Delivers root document none document.text root
  | saved {path : String} {root' : Entry} : root.write? path document.text = some root' →
      Delivers root document (some path) "" root'

theorem delivers_iff {root : Entry} {document : Document} {output : Option String} :
    (∃ shown root', Delivers root document output shown root') ↔
      ∀ path, output = some path → (root.write? path document.text).isSome := by
  constructor
  · rintro ⟨_, _, delivered⟩ path rfl
    cases delivered with
    | saved written =>
      rw [written]
      rfl
  · intro writable
    cases output with
    | none => exact ⟨_, _, .shown⟩
    | some path =>
      obtain ⟨root', written⟩ := Option.isSome_iff_exists.mp (writable path rfl)
      exact ⟨_, _, .saved written⟩

/-- The action succeeds in one of the ways that are described, or there is none and it fails with
the tree as it was. -/
def Succeeds (action : StateM Entry (Except Failure String)) (root : Entry)
    (done : String → Entry → Prop) : Prop :=
  (∃ shown root', action root = (.ok shown, root') ∧ done shown root') ∨
    (∃ failure, action root = (.error failure, root)) ∧ ∀ shown root', ¬ done shown root'

theorem succeeds_exportSingle (format : Format) (options : Options) (file : InputFile)
    (output : Option String) (root : Entry) :
    Succeeds (exportSingle Disk.tree format options file output) root fun shown root' =>
      ∃ document, Source.write file.content format options = .ok document ∧
        Delivers root document output shown root' := by
  unfold Succeeds exportSingle
  cases Source.write file.content format options with
  | error e => exact .inr ⟨⟨_, rfl⟩, by simp⟩
  | ok document =>
    cases output with
    | none => exact .inl ⟨_, _, rfl, document, rfl, .shown⟩
    | some path =>
      dsimp only
      cases written : root.write? path document.text with
      | none =>
        have stays : Disk.tree.write path document.text root = (false, root) := by
          rw [Disk.write_tree_eq, written]
        rw [bind_of_eq stays]
        refine .inr ⟨⟨_, rfl⟩, ?_⟩
        rintro _ _ ⟨_, ⟨⟩, saved | saved⟩
        rw [written] at saved
        cases saved
      | some root' =>
        have changes : Disk.tree.write path document.text root = (true, root') := by
          rw [Disk.write_tree_eq, written]
        rw [bind_of_eq changes]
        exact .inl ⟨_, _, rfl, document, rfl, .saved written⟩

/-- A run without a directory for the output. -/
theorem succeeds_follow (words : SyntaxError → String) {a : Arguments}
    (exports : a.listsFormats = false) (single : a.outputDirectory = none) (root : Entry) :
    Succeeds (follow Disk.tree words a) root fun shown root' =>
      ∃ config file document, Loads root a config [file] ∧ exported a config file = .ok document ∧
        Delivers root document a.output shown root' := by
  unfold Succeeds
  rcases loads_or_fails words exports root with ⟨config, files, loads, ran⟩ | ⟨failed, absent⟩
  · rw [ran]
    unfold exportSources
    rw [single]
    match files, loads with
    | [], loads =>
      refine .inr ⟨⟨_, rfl⟩, ?_⟩
      rintro shown root' ⟨config', file, document, loads', -⟩
      cases (loads.unique loads').2
    | [file], loads =>
      rcases succeeds_exportSingle (a.format.getD config.format) (mergedOptions a config.options)
        file a.output root with ⟨shown, root', ended, document, done⟩ | ⟨failed, absent⟩
      · exact .inl ⟨shown, root', ended, config, file, document, loads, done⟩
      · refine .inr ⟨failed, ?_⟩
        rintro shown root' ⟨config', file', document, loads', done⟩
        obtain ⟨rfl, ⟨⟩⟩ := loads.unique loads'
        exact absent shown root' ⟨document, done⟩
    | first :: second :: rest, loads =>
      refine .inr ⟨⟨_, rfl⟩, ?_⟩
      rintro shown root' ⟨config', file, document, loads', -⟩
      cases (loads.unique loads').2
  · refine .inr ⟨failed, ?_⟩
    rintro shown root' ⟨config, file, document, loads, -⟩
    exact absent config [file] loads

/-! ## Batches -/

/-- Files that are written one after the other are all that changes, also where one of them cannot
be written and the rest is left out. -/
theorem content?_writeAll {directory : String} {files : List (String × String)}
    {root root' : Entry} {result : Except WriteError Unit}
    (ran : Batch.writeAll Disk.tree directory files root = (result, root')) :
    (∀ path, root'.place? path = root.place? path) ∧
      ∀ place, (∀ file ∈ files, root'.place? (Path.join directory file.1) ≠ some place) →
        root'.content? place = root.content? place := by
  induction files generalizing root with
  | nil =>
    cases ran
    exact ⟨fun _ => rfl, fun _ _ => rfl⟩
  | cons file rest ih =>
    obtain ⟨name, content⟩ := file
    unfold Batch.writeAll at ran
    have step := Disk.write_tree_eq (Path.join directory name) content root
    cases written : root.write? (Path.join directory name) content with
    | none =>
      rw [written] at step
      rw [bind_of_eq step] at ran
      cases ran
      exact ⟨fun _ => rfl, fun _ _ => rfl⟩
    | some root₁ =>
      rw [written] at step
      rw [bind_of_eq step] at ran
      obtain ⟨places, contents⟩ := ih ran
      have kept (path : String) : root'.place? path = root.place? path :=
        (places path).trans (Entry.place?_write? written path)
      refine ⟨kept, fun place apart => ?_⟩
      obtain ⟨here, later⟩ := List.forall_mem_cons.mp apart
      rw [kept] at here
      rw [contents place later, Entry.content?, Entry.content?, Entry.look_write? written here]

/-- The directory is made, and all files are written into it. -/
def Fills (directory : String) (files : List (String × String)) (root root' : Entry) : Prop :=
  ∃ made, root.createDirectories? directory = some made ∧
    Disk.tree.WritesAll directory files made root'

theorem Fills.unique {directory : String} {files : List (String × String)}
    {root root' root'' : Entry} (fills : Fills directory files root root')
    (fills' : Fills directory files root root'') : root'' = root' := by
  obtain ⟨made, created, written⟩ := fills
  obtain ⟨made', created', written'⟩ := fills'
  rw [created] at created'
  cases created'
  have same := Disk.writeAll_eq_ok written'
  rw [Disk.writeAll_eq_ok written] at same
  exact (Prod.mk.inj same).2.symm

section Batches

variable (words : SyntaxError → String) (format : Format) (options : Options)
  (outcomes : List Outcome) (directory : String) (root : Entry)

/-- A batch is written as a whole, or it stops. In both cases no other file changes. -/
theorem fills_or_stops :
    ∃ root', (∀ place, (∀ file ∈ Batch.files words format options outcomes,
        root'.place? (Path.join directory file.1) ≠ some place) →
          root'.content? place = root.content? place) ∧
      (Batch.write Disk.tree words format options outcomes directory root =
          (.ok (Batch.manifest words format options outcomes), root') ∧
        Fills directory (Batch.files words format options outcomes) root root' ∨
      (∃ e, Batch.write Disk.tree words format options outcomes directory root =
          (.error e, root')) ∧
        ∀ root'', ¬ Fills directory (Batch.files words format options outcomes) root root'') := by
  have step := Disk.createDirectories_tree directory root
  cases created : root.createDirectories? directory with
  | none =>
    rw [created] at step
    refine ⟨root, fun _ _ => rfl, .inr ⟨⟨.directory directory, ?_⟩, ?_⟩⟩
    · exact bind_of_eq step _
    · rintro _ ⟨made, created', -⟩
      rw [created] at created'
      cases created'
  | some made =>
    rw [created] at step
    cases ran : Batch.writeAll Disk.tree directory (Batch.files words format options outcomes)
        made with
    | mk result root' =>
      refine ⟨root', fun place apart => ?_, ?_⟩
      · rw [(content?_writeAll ran).2 place apart,
          Entry.content?_createDirectories? created place]
      · cases result with
        | ok =>
          have written := Disk.writesAll_of_ok ran
          exact .inl ⟨Batch.write_eq_ok words format options outcomes step written, made, created,
            written⟩
        | error e =>
          refine .inr ⟨⟨e, ?_⟩, ?_⟩
          · unfold Batch.write
            rw [bind_of_eq step]
            exact bind_of_eq ran _
          · rintro _ ⟨made', created', written⟩
            rw [created] at created'
            cases created'
            have all := Disk.writeAll_eq_ok written
            rw [ran] at all
            cases all

/-- The end of an export of sources into a directory. -/
structure EndsExport (files : List InputFile) (ended : Except Failure String × Entry) : Prop where
  silent : ∀ shown, ended.1 = .ok shown → shown = ""
  succeeds : (∃ shown, ended.1 = .ok shown) ↔
    (∃ file ∈ files, ∃ document, Source.write file.content format options = .ok document) ∧
    ∃ root', Fills directory
      (Batch.files words format options (Batch.run format options files)) root root'
  filled : ∀ root', Fills directory
    (Batch.files words format options (Batch.run format options files)) root root' →
    ended.2 = root'
  confined : ∀ place, (∀ file ∈ Batch.files words format options (Batch.run format options files),
      ended.2.place? (Path.join directory file.1) ≠ some place) →
    ended.2.content? place = root.content? place

theorem endsExport (files : List InputFile) :
    EndsExport words format options directory root files
      (exportBatch Disk.tree words format options files directory root) := by
  have documents :
      (Batch.manifest words format options (Batch.run format options files)).exported ≠ 0 ↔
        ∃ file ∈ files, ∃ document, Source.write file.content format options = .ok document := by
    rw [Batch.exported_ne_zero_iff]
    simp [Batch.run]
  unfold exportBatch
  obtain ⟨root', confined, ⟨ran, fills⟩ | ⟨⟨e, ran⟩, absent⟩⟩ :=
    fills_or_stops words format options (Batch.run format options files) directory root
  · rw [bind_of_eq ran]
    dsimp only
    split
    case isTrue nothing =>
      constructor
      case silent => exact fun _ success => nomatch success
      case succeeds =>
        exact ⟨fun ⟨_, success⟩ => (nomatch success),
          fun ⟨any, _⟩ => absurd nothing (documents.mpr any)⟩
      case filled => exact fun _ fills' => fills'.unique fills
      case confined => exact confined
    case isFalse something =>
      constructor
      case silent =>
        rintro _ ⟨⟩
        rfl
      case succeeds =>
        exact ⟨fun _ => ⟨documents.mp something, root', fills⟩, fun _ => ⟨_, rfl⟩⟩
      case filled => exact fun _ fills' => fills'.unique fills
      case confined => exact confined
  · rw [bind_of_eq ran]
    constructor
    case silent => exact fun _ success => nomatch success
    case succeeds =>
      refine ⟨fun ⟨_, success⟩ => (nomatch success), ?_⟩
      rintro ⟨-, root'', fills⟩
      exact absurd fills (absent root'')
    case filled => exact fun root'' fills => absurd fills (absent root'')
    case confined => exact confined

end Batches

/-! ## Runs -/

/-- How a run ends, by the result of following its arguments. -/
def Exit.ofResult : Except Failure String → Exit
  | .ok shown => ⟨0, shown, none⟩
  | .error failure => ⟨1, "", some failure.message⟩

theorem code_ofResult {result : Except Failure String} :
    (Exit.ofResult result).code = 0 ↔ ∃ shown, result = .ok shown := by
  cases result with
  | ok shown => exact ⟨fun _ => ⟨shown, rfl⟩, fun _ => rfl⟩
  | error failure => exact ⟨fun success => (nomatch success), fun ⟨_, success⟩ => (nomatch success)⟩

theorem output_ofResult {result : Except Failure String}
    (silent : ∀ shown, result = .ok shown → shown = "") : (Exit.ofResult result).output = "" := by
  cases result with
  | ok shown => exact silent shown rfl
  | error failure => rfl

theorem run_eq_follow (words : SyntaxError → String) {arguments : List String} {a : Arguments}
    (accepted : CommandLine.read arguments = .ok a) (root : Entry) :
    run Disk.tree words arguments root =
      (Exit.ofResult (follow Disk.tree words a root).1, (follow Disk.tree words a root).2) := by
  unfold run
  rw [accepted]
  dsimp only
  cases ran : follow Disk.tree words a root with
  | mk result root' =>
    rw [bind_of_eq ran]
    cases result <;> rfl

/-- The end of a run that has no directory for its output.

* `succeeds`: there is one source, it has a document, and that can be written where it belongs.
* `delivers`: the document is all that is shown, or all that changes in the tree.
* `fails`: nothing is shown and nothing changes. -/
structure EndsSingle (root : Entry) (a : Arguments) (exit : Exit) (root' : Entry) : Prop where
  succeeds : exit.code = 0 ↔ ∃ config file document, Loads root a config [file] ∧
    exported a config file = .ok document ∧
    ∀ path, a.output = some path → (root.write? path document.text).isSome
  delivers : ∀ config file document, Loads root a config [file] →
    exported a config file = .ok document → exit.code = 0 →
    match a.output with
    | none => exit.output = document.text ∧ root' = root
    | some path => exit.output = "" ∧ root'.find? path = some (.file (.text document.text)) ∧
        ∀ place, root.place? path ≠ some place → root'.look place = root.look place
  fails : exit.code ≠ 0 → exit.output = "" ∧ root' = root

theorem endsSingle_follow (words : SyntaxError → String) {a : Arguments}
    (exports : a.listsFormats = false) (single : a.outputDirectory = none) (root : Entry) :
    EndsSingle root a (Exit.ofResult (follow Disk.tree words a root).1)
      (follow Disk.tree words a root).2 := by
  rcases succeeds_follow words exports single root with
    ⟨shown, root', ran, config, file, document, loads, made, delivered⟩ | ⟨⟨failure, ran⟩, absent⟩
  · rw [ran]
    constructor
    case succeeds =>
      exact ⟨fun _ => ⟨config, file, document, loads, made, delivers_iff.mp ⟨_, _, delivered⟩⟩,
        fun _ => rfl⟩
    case delivers =>
      intro config' file' document' loads' made' _
      obtain ⟨rfl, ⟨⟩⟩ := loads.unique loads'
      rw [made] at made'
      cases made'
      generalize a.output = output at delivered
      cases delivered with
      | shown => exact ⟨rfl, rfl⟩
      | saved written =>
        exact ⟨rfl, Entry.find?_write? written, fun _ => Entry.look_write? written⟩
    case fails => exact fun failed => absurd rfl failed
  · rw [ran]
    constructor
    case succeeds =>
      refine ⟨fun success => (nomatch success), ?_⟩
      rintro ⟨config, file, document, loads, made, writable⟩
      obtain ⟨shown, root', delivered⟩ := delivers_iff.mpr writable
      exact absurd ⟨config, file, document, loads, made, delivered⟩ (absent shown root')
    case delivers => exact fun _ _ _ _ _ success => nomatch success
    case fails => exact fun _ => ⟨rfl, rfl⟩

/-- The files that a run writes into its directory. -/
def batchFiles (words : SyntaxError → String) (a : Arguments) (config : Config)
    (files : List InputFile) : List (String × String) :=
  Batch.files words (a.format.getD config.format) (mergedOptions a config.options)
    (Batch.run (a.format.getD config.format) (mergedOptions a config.options) files)

/-- The end of a run that has a directory for its output.

* `silent`: nothing is shown.
* `ignored`: it does not matter whether a file is named for a single document, and which.
* `succeeds`: there are sources, one of them has a document, and all files can be written.
* `filled`: all files that can be written are there afterwards, also if no source has a document.
* `confined`: no file changes but those of the batch, also where the run fails halfway.
* `untouched`: without sources nothing changes and no directory is made. -/
structure EndsBatch (words : SyntaxError → String) (root : Entry) (a : Arguments)
    (directory : String) (exit : Exit) (root' : Entry) : Prop where
  silent : exit.output = ""
  ignored : ∀ arguments output, CommandLine.read arguments = .ok { a with output := output } →
    run Disk.tree words arguments root = (exit, root')
  succeeds : exit.code = 0 ↔ ∃ config files, Loads root a config files ∧
    (∃ file ∈ files, ∃ document, exported a config file = .ok document) ∧
    ∃ root'', Fills directory (batchFiles words a config files) root root''
  filled : ∀ config files root'', Loads root a config files → files ≠ [] →
    Fills directory (batchFiles words a config files) root root'' → root' = root''
  confined : ∀ place, (∀ config files, Loads root a config files →
      ∀ file ∈ batchFiles words a config files,
        root'.place? (Path.join directory file.1) ≠ some place) →
    root'.content? place = root.content? place
  untouched : (∀ config files, Loads root a config files → files = []) → root' = root

section Directory

variable (words : SyntaxError → String) {a : Arguments} {directory : String}
  (collects : a.outputDirectory = some directory) (root : Entry)

include collects

theorem follow_output (output : Option String) :
    follow Disk.tree words { a with output := output } root = follow Disk.tree words a root := by
  have same (config : Config) (files : List InputFile) :
      exportSources Disk.tree words { a with output := output } config files =
        exportSources Disk.tree words a config files := by
    unfold exportSources
    rw [collects]
    cases files <;> rfl
  unfold follow
  simp only [same]
  rfl

theorem run_output {arguments : List String} {output : Option String}
    (accepted : CommandLine.read arguments = .ok { a with output := output }) :
    run Disk.tree words arguments root =
      (Exit.ofResult (follow Disk.tree words a root).1, (follow Disk.tree words a root).2) := by
  rw [run_eq_follow words accepted, follow_output words collects]

/-- Without sources, whatever the reason, a run fails with the tree as it was. -/
theorem endsBatch_of_empty {failure : Failure}
    (ran : follow Disk.tree words a root = (.error failure, root))
    (empty : ∀ config files, Loads root a config files → files = []) :
    EndsBatch words root a directory (Exit.ofResult (.error failure)) root := by
  constructor
  case silent => rfl
  case ignored =>
    intro arguments output accepted
    rw [run_output words collects root accepted, ran]
  case succeeds =>
    refine ⟨fun success => (nomatch success), ?_⟩
    rintro ⟨config, files, loads, ⟨file, present, -⟩, -⟩
    rw [empty config files loads] at present
    cases present
  case filled =>
    intro config files _ loads filled
    exact absurd (empty config files loads) filled
  case confined => exact fun _ _ => rfl
  case untouched => exact fun _ => rfl

theorem endsBatch_follow (exports : a.listsFormats = false) :
    EndsBatch words root a directory (Exit.ofResult (follow Disk.tree words a root).1)
      (follow Disk.tree words a root).2 := by
  rcases loads_or_fails words exports root with ⟨config, files, loads, ran⟩ | ⟨⟨_, ran⟩, absent⟩
  · unfold exportSources at ran
    rw [collects] at ran
    cases files with
    | nil =>
      have ends := endsBatch_of_empty words collects root ran fun _ _ loads' =>
        (loads.unique loads').2
      rw [ran]
      exact ends
    | cons first rest =>
      have ends := endsExport words (a.format.getD config.format) (mergedOptions a config.options)
        directory root (first :: rest)
      dsimp only at ran
      rw [← ran] at ends
      constructor
      case silent => exact output_ofResult ends.silent
      case ignored => exact fun _ _ accepted => run_output words collects root accepted
      case succeeds =>
        rw [code_ofResult]
        refine ends.succeeds.trans ⟨fun ⟨any, fills⟩ => ⟨config, _, loads, any, fills⟩, ?_⟩
        rintro ⟨config', files', loads', any, fills⟩
        obtain ⟨rfl, rfl⟩ := loads.unique loads'
        exact ⟨any, fills⟩
      case filled =>
        intro config' files' root'' loads' _ fills
        obtain ⟨rfl, rfl⟩ := loads.unique loads'
        exact ends.filled root'' fills
      case confined => exact fun place apart => ends.confined place (apart config _ loads)
      case untouched => exact fun empty => absurd (empty config _ loads) (List.cons_ne_nil _ _)
  · rw [ran]
    exact endsBatch_of_empty words collects root ran fun config files loads =>
      absurd loads (absent config files)

end Directory

/-- A source, a file that is no text, and an old file. -/
def mixedTree : Entry :=
  .directory [("a.rs", .file (.text "fn f() \x7b\x7d")), ("b.rs", .file .binary),
    ("old", .file (.text "kept"))]

/-- The only source of that tree. -/
def mixedSource : InputFile :=
  ⟨"a.rs", none, "fn f() \x7b\x7d"⟩

end SyntaxExport.Program
