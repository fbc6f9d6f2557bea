import SyntaxExport.Proofs.Loading

/-!
# Which package a source belongs to

The directories of targets may be the same or lie in one another, and then a source is found once
for each of them, at the same place of the tree. All these have the same path, so only the first of
them is kept, and with it the package of the first target that has found the source.

Results:
1. `Path.below_intercalate`: a place has one path, from whichever directory it is reached.
2. `Workspace.finds_collectTarget`: what is found for one target.
3. `Workspace.findsFirst_collectTargets`: which of the sources with a path is found first.
4. `Workspace.workspace_sources`: which sources a workspace has, and of which packages.
-/

namespace SyntaxExport

/-! ## Places and their paths -/

namespace Path

theorem exists_intercalate_snoc (names : List String) (name : String) :
    ∃ front, "/".intercalate (names ++ [name]) = front ++ name := by
  by_cases single : names = []
  · exact ⟨"", by rw [single, List.nil_append, String.intercalate_singleton, String.empty_append]⟩
  · refine ⟨"/".intercalate names ++ "/", ?_⟩
    rw [String.intercalate_append_of_ne_nil single (List.cons_ne_nil _ _),
      String.intercalate_singleton]

/-- The path of a place goes on with the next name. -/
theorem join_intercalate {names : List String} (plain : ∀ name ∈ names, Plain name)
    (name : String) : join ("/".intercalate names) name = "/".intercalate (names ++ [name]) := by
  rcases List.eq_nil_or_concat names with rfl | ⟨front, last, rfl⟩
  · rw [String.intercalate_nil, List.nil_append, String.intercalate_singleton]
    rfl
  · rw [List.concat_eq_append] at plain ⊢
    obtain ⟨start, spelled⟩ := exists_intercalate_snoc front last
    obtain ⟨whole, filled, -⟩ := plain last (List.mem_append_right _ (List.mem_singleton_self _))
    have chars : last.toList ≠ [] := mt String.toList_eq_nil_iff.mp filled
    have nonempty : ¬("/".intercalate (front ++ [last])).isEmpty = true := by
      rw [String.isEmpty_iff, spelled, ← String.toList_eq_nil_iff, String.toList_append]
      exact List.append_ne_nil_of_right_ne_nil _ chars
    have closed : ¬(("/".intercalate (front ++ [last])).toList.getLast? == some '/') = true := by
      rw [beq_iff_eq, spelled, String.toList_append, List.getLast?_append_of_ne_nil _ chars]
      exact fun slash => whole (List.mem_of_getLast? slash)
    have some_name : front ++ [last] ≠ [] := List.append_ne_nil_of_right_ne_nil _ (by simp)
    rw [join, if_neg nonempty, if_neg closed,
      String.intercalate_append_of_ne_nil some_name (List.cons_ne_nil _ _),
      String.intercalate_singleton]

/-- A place has one path, from whichever directory on the way it is reached. -/
theorem below_intercalate {place names : List String}
    (plain : ∀ name ∈ place ++ names, Plain name) :
    below ("/".intercalate place) names = "/".intercalate (place ++ names) := by
  induction names generalizing place with
  | nil => rw [List.append_nil]; rfl
  | cons name names ih =>
    rw [List.append_cons] at plain ⊢
    have front := (List.forall_mem_append.mp (List.forall_mem_append.mp plain).1).1
    rw [← ih plain, ← join_intercalate front]
    rfl

theorem components_intercalate {names : List String} (plain : ∀ name ∈ names, Plain name) :
    components ("/".intercalate names) = names.map .name := by
  have whole : below ("/".intercalate []) names = "/".intercalate ([] ++ names) :=
    below_intercalate plain
  rw [List.nil_append] at whole
  rw [← whole, components_below _ plain]
  rfl

theorem fileName?_intercalate {names : List String} (plain : ∀ name ∈ names, Plain name) :
    fileName? ("/".intercalate names) = names.getLast? := by
  rw [fileName?, components_intercalate plain, List.getLast?_map]
  cases names.getLast? <;> rfl

theorem intercalate_inj {names others : List String} (plain : ∀ name ∈ names, Plain name)
    (plain' : ∀ name ∈ others, Plain name)
    (same : key ("/".intercalate names) = key ("/".intercalate others)) : names = others := by
  rw [key, key, components_intercalate plain, components_intercalate plain'] at same
  have parts := List.map_injective_iff.mpr Component.key_injective same
  exact List.map_injective_iff.mpr (fun _ _ => Component.name.inj) parts

end Path

namespace Entry

theorem content?_append (e : Entry) (front names : List String) :
    e.content? (front ++ names) = (e.at? front).bind fun inner => inner.content? names := by
  induction front generalizing e with
  | nil => rfl
  | cons name rest ih =>
    rw [List.cons_append, content?_cons, at?]
    cases e.entries.lookup name with
    | none => rfl
    | some child => exact ih child

theorem Proper.at? {e inner : Entry} (proper : e.Proper) {place : List String}
    (found : e.at? place = some inner) : inner.Proper := by
  induction place generalizing e with
  | nil =>
    cases found
    exact proper
  | cons name rest ih =>
    rw [Entry.at?] at found
    split at found
    case h_1 child listed =>
      cases proper with
      | file => cases listed
      | directory distinct plain within =>
        exact ih (within _ ((lookup_eq_some_iff_mem distinct).mp listed)) found
    case h_2 => cases found

end Entry

namespace Workspace

open Loader

/-! ## Sources of one target -/

/-- A target whose sources are loaded: a library, a program or a macro library. -/
def Loaded (target : Target) : Prop :=
  "lib" ∈ target.kinds ∨ "bin" ∈ target.kinds ∨ "proc-macro" ∈ target.kinds

theorem isLoaded_iff {target : Target} : isLoaded target = true ↔ Loaded target := by
  simp only [isLoaded, Loaded, List.any_eq_true, Bool.or_eq_true, beq_iff_eq]
  constructor
  · rintro ⟨kind, listed, (rfl | rfl) | rfl⟩
    · exact .inl listed
    · exact .inr (.inl listed)
    · exact .inr (.inr listed)
  · rintro (listed | listed | listed)
    · exact ⟨_, listed, .inl (.inl rfl)⟩
    · exact ⟨_, listed, .inl (.inr rfl)⟩
    · exact ⟨_, listed, .inr rfl⟩

/-- A source stands at a place below the directory of a target, with no directory from there on that
is not searched. -/
structure Covers (root : Entry) (target : Target) (place : List String) (content : Content) :
    Prop where
  within : target.directory <+: place
  held : root.content? place = some content
  source : place.getLast?.bind Path.extensionOf? = some "rs"
  searched : ∀ front, target.directory <+: front → front <+: place → front ≠ place →
    front.getLast? ∉ [some "target", some ".git"]

variable {root : Entry} {target : Target} {place : List String} {content : Content}

/-- What a target covers is what a search from its directory reaches. -/
theorem covers_iff (proper : root.Proper) :
    Covers root target place content ↔ ∃ entry names, root.at? target.directory = some entry ∧
      place = target.directory ++ names ∧
      Reaches ("/".intercalate target.directory) entry names content := by
  constructor
  · rintro ⟨⟨names, rfl⟩, held, source, searched⟩
    have plain := proper.plain held
    rw [Entry.content?_append, Option.bind_eq_some_iff] at held
    obtain ⟨entry, found, inner⟩ := held
    refine ⟨entry, names, found, rfl, inner, ?_, ?_⟩
    · rw [Path.extension?, Path.below_intercalate plain, Path.fileName?_intercalate plain]
      exact source
    · rintro front ⟨rest, rfl⟩ other
      rw [← List.append_assoc] at plain
      have plain' := (List.forall_mem_append.mp plain).1
      rw [Path.below_intercalate plain', Path.fileName?_intercalate plain']
      refine searched _ (List.prefix_append _ _) ⟨rest, List.append_assoc ..⟩ fun same => ?_
      exact other (List.append_cancel_left same)
  · rintro ⟨entry, names, found, rfl, inner, source, searched⟩
    have held : root.content? (target.directory ++ names) = some content := by
      rw [Entry.content?_append, found]
      exact inner
    have plain := proper.plain held
    refine ⟨List.prefix_append _ _, held, ?_, ?_⟩
    · rw [Path.extension?, Path.below_intercalate plain, Path.fileName?_intercalate plain] at source
      exact source
    · rintro _ ⟨front, rfl⟩ begins other
      rw [List.prefix_append_right_inj] at begins
      obtain ⟨rest, rfl⟩ := begins
      rw [← List.append_assoc] at plain
      have plain' := (List.forall_mem_append.mp plain).1
      have entered := searched front (List.prefix_append _ _) fun same => other (same ▸ rfl)
      rw [Path.below_intercalate plain', Path.fileName?_intercalate plain'] at entered
      exact entered

/-- A target covers a source with that path and content. -/
def Shows (root : Entry) (target : Target) (path : String) (content : Content) : Prop :=
  ∃ place, Covers root target place content ∧ path = "/".intercalate place

theorem finds_collectTarget (proper : root.Proper) (target : Target) :
    Finds (some target.package) (collectTarget root target) (Shows root target) := by
  rw [collectTarget]
  split
  case h_1 entry found =>
    refine (finds_collect (proper.at? found) _).congr fun path content => ?_
    constructor
    · rintro ⟨names, reaches, rfl⟩
      have covers := (covers_iff proper).mpr ⟨entry, names, found, rfl, reaches⟩
      exact ⟨_, covers, Path.below_intercalate (proper.plain covers.held)⟩
    · rintro ⟨place, covers, rfl⟩
      have plain := proper.plain covers.held
      obtain ⟨entry', names, found', rfl, reaches⟩ := (covers_iff proper).mp covers
      obtain rfl := Option.some.inj (found.symm.trans found')
      exact ⟨names, reaches, (Path.below_intercalate plain).symm⟩
  case h_2 missing =>
    refine finds_nothing ?_
    rintro path content ⟨place, covers, -⟩
    obtain ⟨entry, names, found, -⟩ := (covers_iff proper).mp covers
    cases missing.symm.trans found

/-- Different sources have different paths. -/
theorem eq_of_key_eq (proper : root.Proper) {place other : List String} {content content' : Content}
    (held : root.content? place = some content) (held' : root.content? other = some content')
    (same : Path.key ("/".intercalate place) = Path.key ("/".intercalate other)) :
    place = other ∧ content = content' := by
  obtain rfl := Path.intercalate_inj (proper.plain held) (proper.plain held') same
  exact ⟨rfl, Option.some.inj (held.symm.trans held')⟩

/-- The source is one that a target covers, with the package of the target. -/
def OwnedBy (root : Entry) (target : Target) (file : InputFile) : Prop :=
  file.package = some target.package ∧ Shows root target file.path (.text file.content)

theorem OwnedBy.unique (proper : root.Proper) (a b : InputFile) (owned : OwnedBy root target a)
    (owned' : OwnedBy root target b) (same : Path.key a.path = Path.key b.path) : a = b := by
  obtain ⟨path, package, text⟩ := a
  obtain ⟨path', package', text'⟩ := b
  obtain ⟨owner, place, covers, spelled⟩ := owned
  obtain ⟨owner', other, covers', spelled'⟩ := owned'
  dsimp only at *
  subst owner owner' spelled spelled'
  obtain ⟨rfl, ⟨⟩⟩ := eq_of_key_eq proper covers.held covers'.held same
  rfl

/-! ## Sources of several targets -/

/-- The target is the first that covers the place, of those whose sources are loaded. -/
def FirstToCover (root : Entry) (targets : List Target) (place : List String) (content : Content)
    (target : Target) : Prop :=
  ∃ before after, targets = before ++ target :: after ∧ Loaded target ∧
    Covers root target place content ∧
    ∀ other ∈ before, Loaded other → ¬Covers root other place content

/-- The source stands at a place, and its package is that of the first target that covers it. -/
def Owned (root : Entry) (targets : List Target) (file : InputFile) : Prop :=
  ∃ place target, file.path = "/".intercalate place ∧ file.package = some target.package ∧
    FirstToCover root targets place (.text file.content) target

/-- A target whose sources are loaded covers a source that is no text. -/
def Broken (root : Entry) (targets : List Target) : Prop :=
  ∃ target ∈ targets, Loaded target ∧ ∃ place, Covers root target place .binary

theorem firstToCover_cons {first : Target} {rest : List Target} :
    FirstToCover root (first :: rest) place content target ↔
      target = first ∧ Loaded first ∧ Covers root first place content ∨
        (Loaded first → ¬Covers root first place content) ∧
          FirstToCover root rest place content target := by
  constructor
  · rintro ⟨before, after, split, loaded, covers, others⟩
    cases before with
    | nil =>
      obtain ⟨rfl, -⟩ := List.cons.inj split
      exact .inl ⟨rfl, loaded, covers⟩
    | cons head before =>
      obtain ⟨rfl, tails⟩ := List.cons.inj split
      obtain ⟨here, later⟩ := List.forall_mem_cons.mp others
      exact .inr ⟨here, before, after, tails, loaded, covers, later⟩
  · rintro (⟨rfl, loaded, covers⟩ | ⟨here, before, after, rfl, loaded, covers, later⟩)
    · exact ⟨[], rest, rfl, loaded, covers, fun _ nothing => nomatch nothing⟩
    · exact ⟨first :: before, after, rfl, loaded, covers, List.forall_mem_cons.mpr ⟨here, later⟩⟩

/-- The first target that covers a place is there if any does. -/
theorem exists_firstToCover {targets : List Target} (present : target ∈ targets)
    (loaded : Loaded target) (covers : Covers root target place content) :
    ∃ owner, FirstToCover root targets place content owner := by
  induction targets with
  | nil => cases present
  | cons first rest ih =>
    by_cases here : Loaded first ∧ Covers root first place content
    · exact ⟨first, firstToCover_cons.mpr (.inl ⟨rfl, here⟩)⟩
    · have other : target ≠ first := by
        rintro rfl
        exact here ⟨loaded, covers⟩
      obtain ⟨owner, isFirst⟩ := ih (List.mem_of_ne_of_mem other present)
      exact ⟨owner, firstToCover_cons.mpr (.inr ⟨not_and.mp here, isFirst⟩)⟩

/-- A search for the sources of targets finds the owned source of each path before others with the
same path, or it fails because a source is broken. -/
def FindsFirst (root : Entry) (targets : List Target)
    (result : Except LoadError (List InputFile)) : Prop :=
  match result with
  | .ok files => ¬Broken root targets ∧ ∀ path file,
      files.find? (fun f => Path.same f.path path) = some file ↔
        Owned root targets file ∧ Path.key file.path = Path.key path
  | .error _ => Broken root targets

section Step

variable {first : Target} {rest : List Target} {file : InputFile}

theorem Owned.held (owned : Owned root rest file) :
    ∃ place, file.path = "/".intercalate place ∧
      root.content? place = some (.text file.content) := by
  obtain ⟨place, target, spelled, -, -, -, -, -, covers, -⟩ := owned
  exact ⟨place, spelled, covers.held⟩

theorem owned_cons_of_not_loaded (skipped : ¬Loaded first) :
    Owned root (first :: rest) file ↔ Owned root rest file := by
  unfold Owned
  simp only [firstToCover_cons, skipped, false_and, and_false, false_or, false_implies, true_and]

theorem owned_cons (proper : root.Proper) (loaded : Loaded first) :
    Owned root (first :: rest) file ↔ OwnedBy root first file ∨
      ¬Shows root first file.path (.text file.content) ∧ Owned root rest file := by
  constructor
  · rintro ⟨place, target, spelled, package, isFirst⟩
    rcases firstToCover_cons.mp isFirst with ⟨rfl, -, covers⟩ | ⟨uncovered, later⟩
    · exact .inl ⟨package, place, covers, spelled⟩
    · have owned : Owned root rest file := ⟨place, target, spelled, package, later⟩
      refine .inr ⟨?_, owned⟩
      rintro ⟨other, covers, spelled'⟩
      obtain ⟨-, -, -, -, covers', -⟩ := later
      have same := congrArg Path.key (spelled'.symm.trans spelled)
      obtain ⟨rfl, -⟩ := eq_of_key_eq proper covers.held covers'.held same
      exact uncovered loaded covers
  · rintro (⟨package, place, covers, spelled⟩ | ⟨hidden, place, target, spelled, package, later⟩)
    · exact ⟨place, first, spelled, package, firstToCover_cons.mpr (.inl ⟨rfl, loaded, covers⟩)⟩
    · have uncovered (_ : Loaded first) : ¬Covers root first place (.text file.content) :=
        fun covers => hidden ⟨place, covers, spelled⟩
      exact ⟨place, target, spelled, package, firstToCover_cons.mpr (.inr ⟨uncovered, later⟩)⟩

theorem FindsFirst.skip {result : Except LoadError (List InputFile)} (skipped : ¬Loaded first)
    (finds : FindsFirst root rest result) : FindsFirst root (first :: rest) result := by
  have broken : Broken root (first :: rest) ↔ Broken root rest := by
    rw [Broken, List.exists_mem_cons_iff]
    exact or_iff_right fun both => skipped both.1
  cases result with
  | error => exact broken.mpr finds
  | ok files =>
    refine ⟨mt broken.mp finds.1, fun path file => ?_⟩
    rw [owned_cons_of_not_loaded skipped]
    exact finds.2 path file

/-- The sources of one more target come first. -/
theorem FindsFirst.append (proper : root.Proper) (loaded : Loaded first)
    {found others : Except LoadError (List InputFile)} :
    Finds (some first.package) found (Shows root first) → FindsFirst root rest others →
    FindsFirst root (first :: rest) (match found with
      | .error e => .error e
      | .ok files => others.map fun others => files ++ others) := by
  intro here later
  have broken : Broken root (first :: rest) ↔
      (∃ path, Shows root first path .binary) ∨ Broken root rest := by
    rw [Broken, List.exists_mem_cons_iff]
    refine or_congr_left ⟨?_, ?_⟩
    · rintro ⟨-, place, covers⟩
      exact ⟨_, place, covers, rfl⟩
    · rintro ⟨_, place, covers, -⟩
      exact ⟨loaded, place, covers⟩
  cases found with
  | error e =>
    obtain ⟨path, shown, -⟩ := here
    exact broken.mpr (.inl ⟨path, shown⟩)
  | ok files =>
    obtain ⟨all, readable⟩ := here
    cases others with
    | error e => exact broken.mpr (.inr later)
    | ok others =>
      refine ⟨fun isBroken => ?_, fun path file => ?_⟩
      · exact (broken.mp isBroken).elim (fun ⟨path, shown⟩ => readable path shown) later.1
      have own (f : InputFile) : files.find? (fun f => Path.same f.path path) = some f ↔
          OwnedBy root first f ∧ Path.key f.path = Path.key path :=
        find?_path_eq_some_iff all (OwnedBy.unique proper)
      rw [List.find?_append, Option.or_eq_some_iff, own, later.2, owned_cons proper loaded]
      constructor
      · rintro (⟨owned, same⟩ | ⟨nothing, owned, same⟩)
        · exact ⟨.inl owned, same⟩
        · refine ⟨.inr ⟨fun shown => ?_, owned⟩, same⟩
          have owned' : OwnedBy root first ⟨file.path, some first.package, file.content⟩ :=
            ⟨rfl, shown⟩
          cases nothing.symm.trans ((own _).mpr ⟨owned', same⟩)
      · rintro ⟨owned | ⟨hidden, owned⟩, same⟩
        · exact .inl ⟨owned, same⟩
        · refine .inr ⟨Option.eq_none_iff_forall_ne_some.mpr fun f listed => ?_, owned, same⟩
          obtain ⟨⟨-, place, covers, spelled⟩, same'⟩ := (own f).mp listed
          obtain ⟨other, spelled', held⟩ := owned.held
          have paths : Path.key ("/".intercalate place) = Path.key ("/".intercalate other) := by
            rw [← spelled, ← spelled', same, same']
          obtain ⟨rfl, content⟩ := eq_of_key_eq proper covers.held held paths
          exact hidden ⟨place, content ▸ covers, spelled'⟩

end Step

theorem findsFirst_collectTargets (proper : root.Proper) (targets : List Target) :
    FindsFirst root targets (collectTargets root (targets.filter isLoaded)) := by
  induction targets with
  | nil =>
    refine ⟨fun ⟨_, nothing, _⟩ => (nomatch nothing), fun path file => ?_⟩
    refine iff_of_false (fun nothing => nomatch nothing) ?_
    rintro ⟨⟨_, _, -, -, before, after, nothing, -⟩, -⟩
    exact List.append_ne_nil_of_right_ne_nil _ (List.cons_ne_nil _ _) nothing.symm
  | cons first rest ih =>
    by_cases loaded : Loaded first
    · rw [List.filter_cons_of_pos (isLoaded_iff.mpr loaded), collectTargets]
      exact FindsFirst.append proper loaded (finds_collectTarget proper first) ih
    · rw [List.filter_cons_of_neg (mt isLoaded_iff.mp loaded)]
      exact ih.skip loaded

/-! ## The sources of a workspace -/

theorem yields_sourcesOf (proper : root.Proper) (targets : List Target) :
    Yields (sourcesOf root targets) (Broken root targets) (Owned root targets) := by
  have finds := findsFirst_collectTargets proper targets
  rw [sourcesOf]
  cases result : collectTargets root (targets.filter isLoaded) with
  | error e =>
    rw [result] at finds
    exact finds
  | ok files =>
    rw [result] at finds
    refine ⟨finds.1, catalogs_arrange fun file => ?_⟩
    rw [finds.2]
    exact and_iff_left rfl

theorem covers_relisted {listed : Entry} (proper : root.Proper) (relisted : root.Relisted listed) :
    Covers listed target place content ↔ Covers root target place content := by
  have same := Entry.content?_relisted proper relisted place
  constructor
  · rintro ⟨within, held, source, searched⟩
    exact ⟨within, same ▸ held, source, searched⟩
  · rintro ⟨within, held, source, searched⟩
    exact ⟨within, same ▸ held, source, searched⟩

theorem yields_sourcesOf_relisted {listed : Entry} (proper : root.Proper)
    (relisted : root.Relisted listed) (targets : List Target) :
    Yields (sourcesOf listed targets) (Broken root targets) (Owned root targets) := by
  have yields := yields_sourcesOf (proper.relisted relisted) targets
  unfold Broken Owned FirstToCover at yields
  simp only [covers_relisted proper relisted] at yields
  exact yields

/-- The sources of targets, whatever these are, are loaded exactly if none that a library, a program
or a macro library covers is broken. Then each source is there once, in the order of paths, and its
package is that of the first target that covers it. The order in which directories list their
entries makes no difference. A workspace has the sources of the targets that its manifest
describes. -/
theorem workspace_sources {root : Entry} (proper : root.Proper) (targets : List Target) :
    ((∃ files, sourcesOf root targets = .ok files) ↔
      ∀ target ∈ targets, Loaded target → ∀ place, ¬Covers root target place .binary) ∧
    (∀ files, sourcesOf root targets = .ok files →
      Catalogs (Owned root targets) files ∧
      ∀ target ∈ targets, Loaded target → ∀ place text, Covers root target place (.text text) →
        ∃ file ∈ files, file.path = "/".intercalate place ∧ file.content = text) ∧
    (∀ place other content content', root.content? place = some content →
      root.content? other = some content' →
      Path.same ("/".intercalate place) ("/".intercalate other) = true → place = other) ∧
    (∀ listed, root.Relisted listed → ∀ files,
      sourcesOf listed targets = .ok files ↔ sourcesOf root targets = .ok files) ∧
    ∀ {σ : Type} (disk : Disk (StateM σ)) (manifest : String) (s s' : σ),
      disk.find? "." s = (some root, s') → targets? root manifest = some targets →
      load disk manifest s = (sourcesOf root targets, s') := by
  have yields := yields_sourcesOf proper targets
  refine ⟨?_, ?_, ?_, ?_, ?_⟩
  · rw [yields.isOk_iff, Broken]
    simp only [not_exists, not_and]
  · intro files loaded
    have catalogs := ((yields.eq_ok_iff files).mp loaded).2
    refine ⟨catalogs, fun target present isLoaded place text covers => ?_⟩
    obtain ⟨owner, isFirst⟩ := exists_firstToCover present isLoaded covers
    refine ⟨⟨"/".intercalate place, some owner.package, text⟩, ?_, rfl, rfl⟩
    exact (catalogs.mem_iff _).mpr ⟨place, owner, rfl, rfl, isFirst⟩
  · intro place other content content' held held' same
    exact (eq_of_key_eq proper held held' ((Path.same_iff _ _).mp same)).1
  · intro listed relisted
    exact yields.same (yields_sourcesOf_relisted proper relisted targets)
  · intro σ disk manifest s s' looked described
    have ran : load disk manifest s = (sources root manifest, s') := Program.bind_of_eq looked _
    rw [ran, sources, described]

/-- A package in a directory of another one. -/
def nested : Entry :=
  .directory [("lib.rs", .file (.text "mod a;")), ("target", .directory []),
    ("inner", .directory [("lib.rs", .file (.text ""))])]

theorem nested_proper : nested.Proper := by
  refine .directory (by decide) (by decide) ?_
  rintro child (_ | ⟨_, _ | ⟨_, _ | ⟨_, ⟨⟩⟩⟩⟩)
  · exact .file _
  · exact .directory (by decide) (by decide) fun _ nothing => nomatch nothing
  · refine .directory (by decide) (by decide) ?_
    rintro child (_ | ⟨_, ⟨⟩⟩)
    exact .file _

/-- The targets of the inner package and of the one around it. -/
def nestedTargets : List Target :=
  [⟨"inner", ["lib"], ["inner"]⟩, ⟨"outer", ["cdylib", "lib"], []⟩]

theorem workspace_sources_nested :
    nested.Proper ∧ ∃ files, sourcesOf nested nestedTargets = .ok files ∧
      (⟨"inner/lib.rs", some "inner", ""⟩ : InputFile) ∈ files ∧
      (⟨"lib.rs", some "outer", "mod a;"⟩ : InputFile) ∈ files ∧
      sourcesOf (.directory nested.entries.reverse) nestedTargets = .ok files := by
  have finds := findsFirst_collectTargets nested_proper nestedTargets
  obtain ⟨succeeds, sources, -, relisted, -⟩ := workspace_sources nested_proper nestedTargets
  obtain ⟨files, loaded⟩ := succeeds.mpr fun target present isLoaded place covers =>
    finds.1 ⟨target, present, isLoaded, place, covers⟩
  obtain ⟨catalogs, -⟩ := sources files loaded
  have listed (file : InputFile) (first : _) : file ∈ files :=
    (catalogs.mem_iff file).mpr ((finds.2 file.path file).mp first).1
  refine ⟨nested_proper, files, loaded, listed _ (by decide), listed _ (by decide), ?_⟩
  exact (relisted _ (.perm (List.reverse_perm nested.entries).symm) files).mpr loaded

end Workspace

end SyntaxExport
