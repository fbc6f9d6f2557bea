import SyntaxExport.Proofs.PathOrder
import SyntaxExport.Proofs.Program

/-!
# What is loaded from a directory

A search goes through the directories below a path, except those for build results and version
control. It fails on the first source that is no text. If there is none, it gives all sources, and
the order in which directories list their entries makes no difference to the result, only to the
way there.

Results:
1. `Entry.content?_relisted`: a tree that is listed in another order holds the same files.
2. `Loader.finds_collect`: a search finds all sources, or fails on one that is no text.
3. `Loader.catalogs_arrange`: each of them is listed once, in the order of paths.
4. `Loader.folder_loads`: when sources are loaded from a directory, and which.
-/

namespace SyntaxExport

/-! ## Trees on a disk -/

namespace Entry

/-- A tree as a disk holds it: the entries of a directory have different names, and these are single
parts of paths. -/
inductive Proper : Entry → Prop where
  | file (content : Content) : Proper (.file content)
  | directory {entries : List (String × Entry)} : (entries.map Prod.fst).Nodup →
      (∀ entry ∈ entries, Path.Plain entry.1) → (∀ entry ∈ entries, Proper entry.2) →
      Proper (.directory entries)

/-- The same tree, with the entries of directories listed in another order. -/
inductive Relisted : Entry → Entry → Prop where
  | refl (e : Entry) : Relisted e e
  | perm {entries listed : List (String × Entry)} : entries.Perm listed →
      Relisted (.directory entries) (.directory listed)
  | inside {child child' : Entry} (front : List (String × Entry)) (name : String)
      (rest : List (String × Entry)) : Relisted child child' →
      Relisted (.directory (front ++ (name, child) :: rest))
        (.directory (front ++ (name, child') :: rest))
  | trans {e₁ e₂ e₃ : Entry} : Relisted e₁ e₂ → Relisted e₂ e₃ → Relisted e₁ e₃

theorem lookup_eq_some_iff_mem {entries : List (String × Entry)}
    (distinct : (entries.map Prod.fst).Nodup) {name : String} {child : Entry} :
    entries.lookup name = some child ↔ (name, child) ∈ entries := by
  rw [List.lookup_eq_some_iff]
  constructor
  · rintro ⟨front, rest, rfl, -⟩
    exact List.mem_append_right _ List.mem_cons_self
  · intro present
    obtain ⟨front, rest, rfl⟩ := List.append_of_mem present
    refine ⟨front, rest, rfl, fun entry before => ?_⟩
    rw [List.map_append, List.map_cons, List.nodup_append] at distinct
    have differ := distinct.2.2 entry.1 (List.mem_map_of_mem before) name List.mem_cons_self
    exact bne_iff_ne.mpr differ.symm

theorem content?_cons (e : Entry) (name : String) (rest : List String) :
    e.content? (name :: rest) = (e.entries.lookup name).bind fun child => child.content? rest := by
  rw [content?, look_cons]
  cases e.entries.lookup name <;> rfl

theorem content?_directory_cons {entries : List (String × Entry)}
    (distinct : (entries.map Prod.fst).Nodup) {name : String} {rest : List String}
    {content : Content} :
    (directory entries).content? (name :: rest) = some content ↔
      ∃ child, (name, child) ∈ entries ∧ child.content? rest = some content := by
  rw [content?_cons, Option.bind_eq_some_iff]
  simp only [Entry.entries, lookup_eq_some_iff_mem distinct]

theorem Proper.entries {entries : List (String × Entry)}
    (proper : (Entry.directory entries).Proper) :
    (entries.map Prod.fst).Nodup ∧ (∀ entry ∈ entries, Path.Plain entry.1) ∧
      ∀ entry ∈ entries, entry.2.Proper := by
  cases proper with
  | directory distinct plain inner => exact ⟨distinct, plain, inner⟩

/-- The names that lead to a file are single parts of paths. -/
theorem Proper.plain {e : Entry} (proper : e.Proper) {names : List String} {content : Content}
    (held : e.content? names = some content) : ∀ name ∈ names, Path.Plain name := by
  induction proper generalizing names with
  | file =>
    cases names with
    | nil => exact fun _ nothing => nomatch nothing
    | cons => cases held
  | directory distinct plain inner ih =>
    cases names with
    | nil => cases held
    | cons name rest =>
      obtain ⟨child, present, below⟩ := (content?_directory_cons distinct).mp held
      exact List.forall_mem_cons.mpr ⟨plain _ present, ih _ present below⟩

theorem Proper.relisted {e e' : Entry} (proper : e.Proper) (relisted : e.Relisted e') :
    e'.Proper := by
  induction relisted with
  | refl => exact proper
  | perm same =>
    obtain ⟨distinct, plain, inner⟩ := proper.entries
    exact .directory ((same.map Prod.fst).nodup_iff.mp distinct)
      (fun entry listed => plain entry (same.mem_iff.mpr listed))
      fun entry listed => inner entry (same.mem_iff.mpr listed)
  | inside front name rest _ ih =>
    obtain ⟨distinct, plain, inner⟩ := proper.entries
    rw [List.forall_mem_append, List.forall_mem_cons] at plain inner
    refine .directory ?_ ?_ ?_
    · rwa [List.map_append, List.map_cons] at distinct ⊢
    · rw [List.forall_mem_append, List.forall_mem_cons]
      exact plain
    · rw [List.forall_mem_append, List.forall_mem_cons]
      exact ⟨inner.1, ih inner.2.1, inner.2.2⟩
  | trans _ _ ih₁ ih₂ => exact ih₂ (ih₁ proper)

/-- The order in which entries are listed makes no difference to what files hold. -/
theorem content?_relisted {e e' : Entry} (proper : e.Proper) (relisted : e.Relisted e')
    (place : List String) : e'.content? place = e.content? place := by
  induction relisted generalizing place with
  | refl => rfl
  | perm same =>
    cases place with
    | nil => rfl
    | cons name rest =>
      obtain ⟨distinct, -, -⟩ := proper.entries
      have distinct' := (same.map Prod.fst).nodup_iff.mp distinct
      refine Option.ext fun content => ?_
      rw [content?_directory_cons distinct, content?_directory_cons distinct']
      simp only [same.mem_iff]
  | @inside child child' front name rest _ ih =>
    cases place with
    | nil => rfl
    | cons first others =>
      obtain ⟨-, -, inner⟩ := proper.entries
      have same := ih (inner _ (List.mem_append_right _ List.mem_cons_self)) others
      rw [content?_cons, content?_cons, Entry.entries, Entry.entries, List.lookup_append,
        List.lookup_append, List.lookup_cons, List.lookup_cons]
      cases front.lookup first with
      | some found => rfl
      | none =>
        cases first == name with
        | true => exact same
        | false => rfl
  | trans first _ ih₁ ih₂ => rw [ih₂ (proper.relisted first), ih₁ proper]

end Entry

namespace Loader

/-! ## Sources below a directory -/

/-- Names lead to a source: a file with the extension of sources, with no directory on the way that
is not searched. The directory where they start is one of these. -/
structure Reaches (directory : String) (tree : Entry) (names : List String) (content : Content) :
    Prop where
  held : tree.content? names = some content
  source : Path.extension? (Path.below directory names) = some "rs"
  searched : ∀ front, front <+: names → front ≠ names →
    Path.fileName? (Path.below directory front) ∉ [some "target", some ".git"]

variable {directory : String} {package : Option String}

theorem isSource_iff {path : String} : isSource path = true ↔ Path.extension? path = some "rs" :=
  beq_iff_eq

theorem isSkipped_iff {path : String} :
    isSkipped path = true ↔ Path.fileName? path ∈ [some "target", some ".git"] := by
  rw [isSkipped]
  cases Path.fileName? path <;> simp

/-- A name that is not searched has no extension. -/
theorem isSkipped_of_source {path : String} (source : Path.extension? path = some "rs") :
    ¬isSkipped path = true := by
  rw [isSkipped_iff]
  rw [Path.extension?, Option.bind_eq_some_iff] at source
  obtain ⟨name, last, extension⟩ := source
  rw [last]
  have target : name ≠ "target" := by
    rintro rfl
    exact absurd extension (by decide)
  have git : name ≠ ".git" := by
    rintro rfl
    exact absurd extension (by decide)
  simp [target, git]

theorem reaches_file {own content : Content} {names : List String} :
    Reaches directory (.file own) names content ↔
      Path.extension? directory = some "rs" ∧ names = [] ∧ content = own := by
  constructor
  · rintro ⟨held, source, -⟩
    cases names with
    | nil => exact ⟨source, rfl, (Option.some.inj held).symm⟩
    | cons => cases held
  · rintro ⟨source, rfl, rfl⟩
    exact ⟨rfl, source, fun front begins other => absurd (List.prefix_nil.mp begins) other⟩

theorem reaches_directory {entries : List (String × Entry)}
    (distinct : (entries.map Prod.fst).Nodup) {names : List String} {content : Content} :
    Reaches directory (.directory entries) names content ↔
      ¬isSkipped directory = true ∧ ∃ entry ∈ entries, ∃ rest, names = entry.1 :: rest ∧
        Reaches (Path.join directory entry.1) entry.2 rest content := by
  rw [isSkipped_iff]
  constructor
  · rintro ⟨held, source, searched⟩
    cases names with
    | nil => cases held
    | cons name rest =>
      obtain ⟨child, present, below⟩ := (Entry.content?_directory_cons distinct).mp held
      refine ⟨searched [] List.nil_prefix (fun nothing => nomatch nothing), (name, child), present,
        rest, rfl, below, source, fun front begins other => ?_⟩
      refine searched (name :: front) (List.cons_prefix_cons.mpr ⟨rfl, begins⟩) ?_
      exact fun same => other (List.cons.inj same).2
  · rintro ⟨entered, ⟨name, child⟩, present, rest, rfl, held, source, searched⟩
    refine ⟨(Entry.content?_directory_cons distinct).mpr ⟨child, present, held⟩, source, ?_⟩
    intro front begins other
    cases front with
    | nil => exact entered
    | cons first front =>
      obtain ⟨rfl, within⟩ := List.cons_prefix_cons.mp begins
      exact searched front within fun same => other (same ▸ rfl)

/-- A source with that content stands at a path below a directory. -/
def Stands (directory : String) (tree : Entry) (path : String) (content : Content) : Prop :=
  ∃ names, Reaches directory tree names content ∧ path = Path.below directory names

theorem stands_file {own content : Content} {path : String} :
    Stands directory (.file own) path content ↔
      Path.extension? directory = some "rs" ∧ path = directory ∧ content = own := by
  constructor
  · rintro ⟨names, reaches, rfl⟩
    obtain ⟨source, rfl, rfl⟩ := reaches_file.mp reaches
    exact ⟨source, rfl, rfl⟩
  · rintro ⟨source, rfl, rfl⟩
    exact ⟨[], reaches_file.mpr ⟨source, rfl, rfl⟩, rfl⟩

theorem stands_directory {entries : List (String × Entry)}
    (distinct : (entries.map Prod.fst).Nodup) {path : String} {content : Content} :
    Stands directory (.directory entries) path content ↔
      ¬isSkipped directory = true ∧
        ∃ entry ∈ entries, Stands (Path.join directory entry.1) entry.2 path content := by
  constructor
  · rintro ⟨_, reaches, rfl⟩
    obtain ⟨entered, entry, present, rest, rfl, below⟩ := (reaches_directory distinct).mp reaches
    exact ⟨entered, entry, present, rest, below, rfl⟩
  · rintro ⟨entered, entry, present, rest, below, rfl⟩
    refine ⟨entry.1 :: rest, (reaches_directory distinct).mpr ?_, rfl⟩
    exact ⟨entered, entry, present, rest, rfl, below⟩

/-! ## Searching -/

/-- A search for the sources that are there gives all of them, with the package it is for, or it
fails on one that is no text. -/
def Finds (package : Option String) (result : Except LoadError (List InputFile))
    (there : String → Content → Prop) : Prop :=
  match result with
  | .ok files =>
      (∀ file, file ∈ files ↔ file.package = package ∧ there file.path (.text file.content)) ∧
        ∀ path, ¬there path .binary
  | .error e => ∃ path, there path .binary ∧ e = .unreadable path

theorem Finds.congr {result : Except LoadError (List InputFile)}
    {there there' : String → Content → Prop} (finds : Finds package result there)
    (same : ∀ path content, there path content ↔ there' path content) :
    Finds package result there' := by
  obtain rfl : there = there' := funext₂ fun path content => propext (same path content)
  exact finds

theorem finds_nothing {there : String → Content → Prop}
    (empty : ∀ path content, ¬there path content) : Finds package (.ok []) there :=
  ⟨fun _ => iff_of_false List.not_mem_nil fun found => empty _ _ found.2,
    fun path => empty path .binary⟩

/-- Two searches, one after the other. -/
theorem Finds.append {first second : Except LoadError (List InputFile)}
    {there there' : String → Content → Prop} :
    Finds package first there → Finds package second there' →
    Finds package (match first with
      | .error e => .error e
      | .ok files => second.map fun others => files ++ others)
      fun path content => there path content ∨ there' path content := by
  intro finds finds'
  cases first with
  | error e =>
    obtain ⟨path, broken, named⟩ := finds
    exact ⟨path, .inl broken, named⟩
  | ok files =>
    cases second with
    | error e =>
      obtain ⟨path, broken, named⟩ := finds'
      exact ⟨path, .inr broken, named⟩
    | ok others =>
      refine ⟨fun file => ?_, fun path => not_or.mpr ⟨finds.2 path, finds'.2 path⟩⟩
      rw [List.mem_append, finds.1, finds'.1, and_or_left]

theorem finds_file (own : Content) :
    Finds package (collect package directory (.file own)) (Stands directory (.file own)) := by
  rw [collect]
  by_cases source : Path.extension? directory = some "rs"
  · have sought : ¬((isSkipped directory || !isSource directory) = true) := by
      rw [isSource_iff.mpr source, Bool.not_true, Bool.or_false]
      exact isSkipped_of_source source
    rw [if_neg sought]
    cases own with
    | text s =>
      refine ⟨fun file => ?_, fun path broken => ?_⟩
      · rw [List.mem_singleton, stands_file]
        constructor
        · rintro rfl
          exact ⟨rfl, source, rfl, rfl⟩
        · obtain ⟨path, owner, text⟩ := file
          rintro ⟨rfl, -, rfl, ⟨⟩⟩
          rfl
      · cases (stands_file.mp broken).2.2
    | binary => exact ⟨directory, stands_file.mpr ⟨source, rfl, rfl⟩, rfl⟩
  · have passed : (isSkipped directory || !isSource directory) = true := by
      rw [Bool.eq_false_iff.mpr fun own => source (isSource_iff.mp own), Bool.not_false,
        Bool.or_true]
    rw [if_pos passed]
    exact finds_nothing fun path content stands => source (stands_file.mp stands).1

theorem finds_collectAll {entries : List (String × Entry)}
    (each : ∀ entry ∈ entries, ∀ path,
      Finds package (collect package path entry.2) (Stands path entry.2)) :
    Finds package (collectAll package directory entries) fun path content =>
      ∃ entry ∈ entries, Stands (Path.join directory entry.1) entry.2 path content := by
  induction entries with
  | nil =>
    rw [collectAll]
    exact finds_nothing fun _ _ ⟨_, nothing, _⟩ => nomatch nothing
  | cons entry rest ih =>
    obtain ⟨here, later⟩ := List.forall_mem_cons.mp each
    rw [collectAll]
    refine ((here _).append (ih later)).congr fun _ _ => ?_
    rw [List.exists_mem_cons_iff]

/-- A search finds all sources below a directory, or fails on one that is no text. -/
theorem finds_collect {tree : Entry} (proper : tree.Proper) (directory : String) :
    Finds package (collect package directory tree) (Stands directory tree) := by
  induction proper generalizing directory with
  | file own => exact finds_file own
  | directory distinct plain inner ih =>
    rw [collect]
    by_cases skipped : isSkipped directory = true
    · rw [if_pos skipped]
      exact finds_nothing fun _ _ stands => ((stands_directory distinct).mp stands).1 skipped
    · rw [if_neg skipped]
      refine (finds_collectAll ih).congr fun path content => ?_
      rw [stands_directory distinct]
      exact (and_iff_right skipped).symm

/-! ## What is loaded -/

/-- The sources that are found, each of them once, in the order of their paths. -/
structure Catalogs (found : InputFile → Prop) (files : List InputFile) : Prop where
  sound : ∀ file ∈ files, found file
  once : ∀ file, found file → files.filter (fun f => Path.same f.path file.path) = [file]
  increasing : files.Pairwise fun a b => Path.Before a.path b.path

theorem Catalogs.mem_iff {found : InputFile → Prop} {files : List InputFile}
    (catalogs : Catalogs found files) (file : InputFile) : file ∈ files ↔ found file := by
  refine ⟨catalogs.sound file, fun isFound => ?_⟩
  have listed : file ∈ files.filter fun f => Path.same f.path file.path := by
    rw [catalogs.once file isFound]
    exact List.mem_singleton_self file
  exact List.mem_of_mem_filter listed

theorem Catalogs.unique {found : InputFile → Prop} {files others : List InputFile}
    (catalogs : Catalogs found files) (catalogs' : Catalogs found others) : files = others :=
  eq_of_increasing catalogs.increasing catalogs'.increasing fun file =>
    (catalogs.mem_iff file).trans (catalogs'.mem_iff file).symm

theorem filter_same_path {files : List InputFile}
    (increasing : files.Pairwise fun a b => Path.Before a.path b.path) {file : InputFile}
    (present : file ∈ files) : files.filter (fun f => Path.same f.path file.path) = [file] := by
  obtain ⟨front, back, rfl⟩ := List.append_of_mem present
  rw [List.pairwise_append, List.pairwise_cons] at increasing
  obtain ⟨-, ⟨behind, -⟩, before⟩ := increasing
  have noneBefore : front.filter (fun f => Path.same f.path file.path) = [] := by
    refine List.filter_eq_nil_iff.mpr fun f listed same => ?_
    have smaller := before f listed file List.mem_cons_self
    exact absurd ((Path.same_iff _ _).mp same) (ne_of_lt smaller)
  have noneBehind : back.filter (fun f => Path.same f.path file.path) = [] := by
    refine List.filter_eq_nil_iff.mpr fun f listed same => ?_
    exact absurd ((Path.same_iff _ _).mp same) (ne_of_gt (behind f listed))
  have itself : Path.same file.path file.path = true := (Path.same_iff _ _).mpr rfl
  rw [List.filter_append, List.filter_cons, if_pos itself, noneBefore, noneBehind]
  rfl

/-- Arranged sources are those that come first with their path. -/
theorem catalogs_arrange {found : InputFile → Prop} {files : List InputFile}
    (first : ∀ file, files.find? (fun f => Path.same f.path file.path) = some file ↔ found file) :
    Catalogs found (arrange files) where
  sound file listed := (first file).mp (mem_arrange_iff.mp listed)
  once file isFound :=
    filter_same_path (pairwise_arrange files) (mem_arrange_iff.mpr ((first file).mpr isFound))
  increasing := pairwise_arrange files

/-- Different files have different paths. -/
theorem Reaches.unique {tree : Entry} (proper : tree.Proper) {names others : List String}
    {content content' : Content} (reaches : Reaches directory tree names content)
    (reaches' : Reaches directory tree others content')
    (same : Path.key (Path.below directory names) = Path.key (Path.below directory others)) :
    names = others :=
  Path.below_inj (proper.plain reaches.held) (proper.plain reaches'.held) same

theorem Stands.unique {tree : Entry} (proper : tree.Proper) {path path' : String}
    {content content' : Content} (stands : Stands directory tree path content)
    (stands' : Stands directory tree path' content') (same : Path.key path = Path.key path') :
    path = path' ∧ content = content' := by
  obtain ⟨names, reaches, rfl⟩ := stands
  obtain ⟨others, reaches', rfl⟩ := stands'
  obtain rfl := reaches.unique proper reaches' same
  exact ⟨rfl, Option.some.inj (reaches.held.symm.trans reaches'.held)⟩

/-- The source stands below a directory, and it has been loaded for a package. -/
def Located (package : Option String) (directory : String) (tree : Entry) (file : InputFile) :
    Prop :=
  file.package = package ∧ Stands directory tree file.path (.text file.content)

theorem Located.unique {tree : Entry} (proper : tree.Proper) {a b : InputFile}
    (located : Located package directory tree a) (located' : Located package directory tree b)
    (same : Path.key a.path = Path.key b.path) : a = b := by
  obtain ⟨path, content⟩ := located.2.unique proper located'.2 same
  have owner := located.1.trans located'.1.symm
  cases a
  cases b
  exact (InputFile.mk.injEq ..).mpr ⟨path, owner, Content.text.inj content⟩

/-- What a list with all sources of a kind gives for a path, if no two of them have the same. -/
theorem find?_path_eq_some_iff {found : InputFile → Prop} {files : List InputFile}
    (all : ∀ file, file ∈ files ↔ found file)
    (unique : ∀ a b, found a → found b → Path.key a.path = Path.key b.path → a = b)
    {path : String} {file : InputFile} :
    files.find? (fun f => Path.same f.path path) = some file ↔
      found file ∧ Path.key file.path = Path.key path := by
  constructor
  · intro first
    have itself := List.find?_some first
    exact ⟨(all file).mp (List.mem_of_find?_eq_some first), (Path.same_iff _ _).mp itself⟩
  · rintro ⟨isFound, same⟩
    have exists_one : (files.find? fun f => Path.same f.path path).isSome = true :=
      List.find?_isSome.mpr ⟨file, (all file).mpr isFound, (Path.same_iff _ _).mpr same⟩
    obtain ⟨first, isFirst⟩ := Option.isSome_iff_exists.mp exists_one
    have itself := List.find?_some isFirst
    have isFound' := (all first).mp (List.mem_of_find?_eq_some isFirst)
    have paths := ((Path.same_iff _ _).mp itself).trans same.symm
    rw [isFirst, unique first file isFound' isFound paths]

/-- Sources are loaded, or one of them is broken and loading fails. -/
def Yields (result : Except LoadError (List InputFile)) (broken : Prop)
    (found : InputFile → Prop) : Prop :=
  match result with
  | .ok files => ¬broken ∧ Catalogs found files
  | .error _ => broken

section Yields

variable {result result' : Except LoadError (List InputFile)} {broken : Prop}
  {found : InputFile → Prop}

theorem Yields.isOk_iff (yields : Yields result broken found) :
    (∃ files, result = .ok files) ↔ ¬broken := by
  cases result with
  | error => exact iff_of_false (fun ⟨_, nothing⟩ => nomatch nothing) (not_not_intro yields)
  | ok files => exact iff_of_true ⟨files, rfl⟩ yields.1

theorem Yields.eq_ok_iff (yields : Yields result broken found) (files : List InputFile) :
    result = .ok files ↔ ¬broken ∧ Catalogs found files := by
  cases result with
  | error => exact iff_of_false (fun nothing => nomatch nothing) fun both => both.1 yields
  | ok own =>
    constructor
    · rintro ⟨⟩
      exact yields
    · rintro ⟨-, catalogs⟩
      rw [yields.2.unique catalogs]

theorem Yields.same (yields : Yields result broken found) (yields' : Yields result' broken found)
    (files : List InputFile) : result' = .ok files ↔ result = .ok files := by
  rw [yields.eq_ok_iff, yields'.eq_ok_iff]

end Yields

theorem yields_folderIn {tree : Entry} (proper : tree.Proper) :
    Yields (folderIn directory (some tree)) (∃ names, Reaches directory tree names .binary)
      (Located none directory tree) := by
  have finds : Finds none _ _ := finds_collect proper directory
  rw [folderIn]
  cases result : collect none directory tree with
  | error e =>
    rw [result] at finds
    obtain ⟨_, ⟨names, reaches, -⟩, -⟩ := finds
    exact ⟨names, reaches⟩
  | ok collected =>
    rw [result] at finds
    obtain ⟨all, readable⟩ := finds
    have unique (a b : InputFile) (located : Located none directory tree a)
        (located' : Located none directory tree b) := located.unique proper located'
    constructor
    · rintro ⟨names, reaches⟩
      exact readable _ ⟨names, reaches, rfl⟩
    · exact catalogs_arrange fun _ => (find?_path_eq_some_iff all unique).trans (and_iff_left rfl)

theorem reaches_relisted {tree listed : Entry} (proper : tree.Proper)
    (relisted : tree.Relisted listed) {names : List String} {content : Content} :
    Reaches directory listed names content ↔ Reaches directory tree names content := by
  have same := Entry.content?_relisted proper relisted names
  constructor
  · rintro ⟨held, source, searched⟩
    exact ⟨same ▸ held, source, searched⟩
  · rintro ⟨held, source, searched⟩
    exact ⟨same ▸ held, source, searched⟩

theorem yields_folderIn_relisted {tree listed : Entry} (proper : tree.Proper)
    (relisted : tree.Relisted listed) :
    Yields (folderIn directory (some listed)) (∃ names, Reaches directory tree names .binary)
      (Located none directory tree) := by
  have yields : Yields (folderIn directory (some listed)) _ _ :=
    yields_folderIn (proper.relisted relisted)
  unfold Located Stands at yields
  simp only [reaches_relisted proper relisted] at yields
  exact yields

theorem folder_eq {σ : Type} (disk : Disk (StateM σ)) {found : Option Entry} {s s' : σ}
    (looked : disk.find? directory s = (found, s')) :
    folder disk directory s = (folderIn directory found, s') :=
  Program.bind_of_eq looked _

/-- Sources are loaded from a directory exactly if all that are there are texts. The result holds
each of them once, with its content and without a package, in the order of their paths. Different
files have different paths. The result is the same if the entries of directories are listed in
another order. -/
theorem folder_loads {σ : Type} (disk : Disk (StateM σ)) {directory : String} {tree : Entry}
    {s s' : σ} (looked : disk.find? directory s = (some tree, s')) (proper : tree.Proper) :
    ∃ result, folder disk directory s = (result, s') ∧
      ((∃ files, result = .ok files) ↔ ∀ names, ¬Reaches directory tree names .binary) ∧
      (∀ files, result = .ok files → Catalogs (Located none directory tree) files) ∧
      (∀ names others content content', Reaches directory tree names content →
        Reaches directory tree others content' →
        Path.same (Path.below directory names) (Path.below directory others) = true →
        names = others) ∧
      ∀ listed t t', tree.Relisted listed → disk.find? directory t = (some listed, t') →
        ∃ result', folder disk directory t = (result', t') ∧
          ∀ files, result' = .ok files ↔ result = .ok files := by
  have yields : Yields (folderIn directory (some tree)) _ _ := yields_folderIn proper
  refine ⟨_, folder_eq disk looked, ?_, ?_, ?_, ?_⟩
  · exact yields.isOk_iff.trans not_exists
  · intro files loaded
    exact ((yields.eq_ok_iff files).mp loaded).2
  · intro names others content content' reaches reaches' same
    exact reaches.unique proper reaches' ((Path.same_iff _ _).mp same)
  · intro listed t t' relisted looked'
    exact ⟨_, folder_eq disk looked', yields.same (yields_folderIn_relisted proper relisted)⟩

/-- A directory with the name of a source, a source with a name like a directory for build results,
and such a directory with a file that is no text. -/
def crowded : Entry :=
  .directory [("x.rs", .directory [("target.rs", .file (.text "fn f() {}"))]),
    ("target", .directory [("broken.rs", .file .binary)]),
    ("a.rs", .file (.text "")), ("notes", .file .binary)]

theorem crowded_proper : crowded.Proper := by
  have only {name : String} {entry : Entry} (proper : entry.Proper) :
      ∀ child ∈ [(name, entry)], child.2.Proper := by
    rintro child (_ | ⟨_, ⟨⟩⟩)
    exact proper
  refine .directory (by decide) (by decide) ?_
  rintro child (_ | ⟨_, _ | ⟨_, _ | ⟨_, _ | ⟨_, ⟨⟩⟩⟩⟩⟩)
  · exact .directory (by decide) (by decide) (only (.file _))
  · exact .directory (by decide) (by decide) (only (.file _))
  · exact .file _
  · exact .file _

theorem folder_loads_crowded :
    (Disk.tree.find? "." crowded = (some crowded, crowded) ∧ crowded.Proper) ∧
      ∃ files, folder Disk.tree "." crowded = (.ok files, crowded) ∧
        (∀ file, file ∈ files ↔
          file ∈ [⟨"./x.rs/target.rs", none, "fn f() {}"⟩, ⟨"./a.rs", none, ""⟩]) ∧
        folder Disk.tree "." (.directory crowded.entries.reverse) =
          (.ok files, .directory crowded.entries.reverse) := by
  have looked : Disk.tree.find? "." crowded = (some crowded, crowded) := rfl
  have finds : Finds none (collect none "." crowded) _ := finds_collect crowded_proper "."
  refine ⟨⟨looked, crowded_proper⟩, ?_⟩
  obtain ⟨result, ran, succeeds, catalogs, -, relisted⟩ :=
    folder_loads Disk.tree looked crowded_proper
  obtain ⟨files, rfl⟩ := succeeds.mpr fun names reaches => finds.2 _ ⟨names, reaches, rfl⟩
  refine ⟨files, ran, fun file => ?_, ?_⟩
  · rw [(catalogs files rfl).mem_iff]
    exact (finds.1 file).symm
  · obtain ⟨result', ran', same⟩ :=
      relisted _ (.directory crowded.entries.reverse) _
        (.perm (List.reverse_perm crowded.entries).symm) rfl
    rw [ran', (same files).mpr rfl]

end Loader

end SyntaxExport
