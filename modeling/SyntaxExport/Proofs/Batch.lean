import Mathlib.Data.List.Forall2
import SyntaxExport.Batch
import SyntaxExport.Proofs.FileTree
import SyntaxExport.Proofs.OutputName

/-!
# Batches that are written

The names of a batch are fixed before anything is written: each is chosen among the names that no
earlier document and not the manifest has. So no write of a batch falls on another, and after the
last one every file holds what was written to it.

Results:
1. `nodup_names`, `fileName_not_mem_names`: documents and the manifest have names of their own.
2. `read_of_writesAll`: files that are written under different names are all read back.
3. `batch_write_complete`: the manifest accounts for every source, and every document is there.
-/

namespace SyntaxExport

/-! ## Names of a plan -/

namespace Batch

/-- A document has a name and a failure has none. -/
def Planned.Settled (p : Planned) : Prop :=
  match p.outcome.result with
  | .ok _ => p.name.isSome
  | .error _ => p.name = none

/-- The names that documents are written under. -/
def names (plan : List Planned) : List String :=
  plan.filterMap Planned.name

section Plan

variable (format : Format)

theorem map_outcome_planFrom (taken : List String) (outcomes : List Outcome) :
    (planFrom format taken outcomes).map Planned.outcome = outcomes := by
  induction outcomes generalizing taken with
  | nil => rfl
  | cons outcome rest ih =>
    rw [planFrom]
    split
    · exact congrArg (List.cons outcome) (ih _)
    · exact congrArg (List.cons outcome) (ih _)

theorem settled_planFrom (taken : List String) (outcomes : List Outcome) :
    ∀ p ∈ planFrom format taken outcomes, p.Settled := by
  induction outcomes generalizing taken with
  | nil => exact fun _ absent => nomatch absent
  | cons outcome rest ih =>
    rw [planFrom]
    split
    case h_1 document exported =>
      rw [List.forall_mem_cons]
      refine ⟨?_, ih _⟩
      simp [Planned.Settled, exported]
    case h_2 e failed =>
      rw [List.forall_mem_cons]
      refine ⟨?_, ih _⟩
      simp [Planned.Settled, failed]

/-- Names are free when they are chosen, and taken from then on. -/
theorem fresh_planFrom (taken : List String) (outcomes : List Outcome) :
    (names (planFrom format taken outcomes)).Nodup ∧
      ∀ name ∈ names (planFrom format taken outcomes), name ∉ taken := by
  induction outcomes generalizing taken with
  | nil => exact ⟨List.nodup_nil, fun _ absent => nomatch absent⟩
  | cons outcome rest ih =>
    rw [planFrom]
    split
    case h_1 document exported =>
      obtain ⟨distinct, fresh⟩ := ih (OutputName.unique taken outcome.path format).2
      have grown := OutputName.unique_snd taken outcome.path format
      refine ⟨List.nodup_cons.mpr ⟨?_, distinct⟩, List.forall_mem_cons.mpr ⟨?_, ?_⟩⟩
      · exact fun again => fresh _ again (grown ▸ List.mem_cons_self)
      · exact OutputName.unique_not_mem taken outcome.path format
      · exact fun name present held => fresh name present (grown ▸ List.mem_cons_of_mem _ held)
    case h_2 e failed => exact ih taken

theorem chosen_planFrom (taken : List String) (outcomes : List Outcome) :
    ∀ name ∈ names (planFrom format taken outcomes),
      ∃ taken path, name = (OutputName.unique taken path format).1 := by
  induction outcomes generalizing taken with
  | nil => exact fun _ absent => nomatch absent
  | cons outcome rest ih =>
    rw [planFrom]
    split
    case h_1 document exported =>
      exact List.forall_mem_cons.mpr ⟨⟨taken, outcome.path, rfl⟩, ih _⟩
    case h_2 e failed => exact ih taken

theorem nodup_names (outcomes : List Outcome) : (names (plan format outcomes)).Nodup :=
  (fresh_planFrom format _ outcomes).1

theorem fileName_not_mem_names (outcomes : List Outcome) :
    Manifest.fileName ∉ names (plan format outcomes) :=
  fun present => (fresh_planFrom format _ outcomes).2 _ present List.mem_cons_self

/-- A name ends with the extension of the format and holds no separator. -/
theorem shape_names (outcomes : List Outcome) : ∀ name ∈ names (plan format outcomes),
    (∃ front, name = front ++ ("." ++ format.extension)) ∧
      ∀ c ∈ name.toList, OutputName.FlatChar c := by
  intro name present
  obtain ⟨taken, path, rfl⟩ := chosen_planFrom format _ outcomes name present
  obtain ⟨middle, spelled, -⟩ := OutputName.unique_eq taken path format
  exact ⟨⟨_, spelled⟩, OutputName.forall_mem_unique taken path format⟩

theorem plain_of_mem_names (outcomes : List Outcome) :
    ∀ name ∈ names (plan format outcomes), Path.Plain name := by
  intro name present
  obtain ⟨⟨front, rfl⟩, flat⟩ := shape_names format outcomes name present
  have long : 2 < (front ++ ("." ++ format.extension)).length := by
    have ending : 2 < ("." ++ format.extension).length := by cases format <;> decide
    rw [String.length_append]
    omega
  refine ⟨fun slash => (flat _ slash).1 rfl, ?_, ?_, ?_⟩ <;>
    · intro short
      rw [short] at long
      revert long
      decide

end Plan

/-! ## The manifest -/

theorem output_entry (words : SyntaxError → String) {p : Planned} (settled : p.Settled) :
    (p.entry words).output = p.name := by
  unfold Planned.Settled at settled
  unfold Planned.entry
  split
  case h_1 => rfl
  case h_2 e failed =>
    rw [failed] at settled
    exact settled.symm

/-- The names of documents in a manifest. -/
def outputs (m : Manifest) : List String :=
  m.files.filterMap ManifestEntry.output

theorem outputs_manifest (words : SyntaxError → String) (format : Format) (options : Options)
    (outcomes : List Outcome) :
    outputs (manifest words format options outcomes) = names (plan format outcomes) := by
  rw [outputs, manifest, List.filterMap_map, names]
  exact List.filterMap_congr fun p present =>
    output_entry words (settled_planFrom format _ outcomes p present)

/-- An entry has a document or an error, as its outcome says. -/
def Reports (outcome : Outcome) (entry : ManifestEntry) : Prop :=
  entry.source = outcome.path ∧ entry.output.isSome = outcome.result.isOk ∧
    entry.error.isSome = !outcome.result.isOk

theorem reports_entry (words : SyntaxError → String) {p : Planned} (settled : p.Settled) :
    Reports p.outcome (p.entry words) := by
  unfold Planned.Settled at settled
  unfold Reports Planned.entry
  cases result : p.outcome.result with
  | ok document =>
    rw [result] at settled
    exact ⟨rfl, settled, rfl⟩
  | error e => exact ⟨rfl, rfl, rfl⟩

theorem length_output_add_error {entries : List ManifestEntry}
    (each : ∀ entry ∈ entries, entry.error.isSome = !entry.output.isSome) :
    (entries.filterMap ManifestEntry.output).length +
      (entries.filter fun entry => entry.error.isSome).length = entries.length := by
  induction entries with
  | nil => rfl
  | cons entry rest ih =>
    obtain ⟨here, later⟩ := List.forall_mem_cons.mp each
    have counted := ih later
    cases found : entry.output with
    | none =>
      simp only [found, here, List.filterMap_cons_none, List.filter_cons, Option.isSome_none,
        Bool.not_false, if_true, List.length_cons]
      omega
    | some name =>
      simp only [List.filterMap_cons_some found, found, here, List.filter_cons, Option.isSome_some,
        Bool.not_true, Bool.false_eq_true, if_false, List.length_cons]
      omega

/-! ## Files -/

/-- All files of a batch, in the order they are written. -/
def files (words : SyntaxError → String) (format : Format) (options : Options)
    (outcomes : List Outcome) : List (String × String) :=
  (plan format outcomes).filterMap Planned.document? ++
    [(Manifest.fileName, (manifest words format options outcomes).render)]

theorem map_fst_document? {p : Planned} (settled : p.Settled) :
    p.document?.map Prod.fst = p.name := by
  unfold Planned.Settled at settled
  unfold Planned.document?
  cases result : p.outcome.result with
  | ok document =>
    rw [result] at settled
    obtain ⟨name, chosen⟩ := Option.isSome_iff_exists.mp settled
    rw [chosen]
    rfl
  | error e =>
    rw [result] at settled
    exact settled.symm

theorem document?_of_ok {p : Planned} (settled : p.Settled) {document : Document}
    (exported : p.outcome.result = .ok document) :
    ∃ name, p.name = some name ∧ p.document? = some (name, document.text) := by
  unfold Planned.Settled at settled
  rw [exported] at settled
  obtain ⟨name, chosen⟩ := Option.isSome_iff_exists.mp settled
  refine ⟨name, chosen, ?_⟩
  unfold Planned.document?
  rw [exported, chosen]

theorem document?_of_name {p : Planned} (settled : p.Settled) {name : String}
    (chosen : p.name = some name) :
    ∃ document, p.outcome.result = .ok document ∧ p.document? = some (name, document.text) := by
  unfold Planned.Settled at settled
  cases result : p.outcome.result with
  | ok document =>
    refine ⟨document, rfl, ?_⟩
    unfold Planned.document?
    rw [result, chosen]
  | error e =>
    rw [result, chosen] at settled
    cases settled

theorem map_fst_documents {planned : List Planned} (settled : ∀ p ∈ planned, p.Settled) :
    (planned.filterMap Planned.document?).map Prod.fst = names planned := by
  rw [List.map_filterMap, names]
  exact List.filterMap_congr fun p present => map_fst_document? (settled p present)

theorem map_fst_files (words : SyntaxError → String) (format : Format) (options : Options)
    (outcomes : List Outcome) :
    (files words format options outcomes).map Prod.fst =
      names (plan format outcomes) ++ [Manifest.fileName] := by
  have settled : ∀ p ∈ plan format outcomes, p.Settled := settled_planFrom format _ outcomes
  rw [files, List.map_append, map_fst_documents settled]
  rfl

theorem nodup_map_fst_files (words : SyntaxError → String) (format : Format) (options : Options)
    (outcomes : List Outcome) : ((files words format options outcomes).map Prod.fst).Nodup := by
  rw [map_fst_files, List.nodup_append]
  refine ⟨nodup_names format outcomes, List.nodup_singleton _, ?_⟩
  rintro name present _ last rfl
  rw [List.mem_singleton.mp last] at present
  exact fileName_not_mem_names format outcomes present

theorem plain_files (words : SyntaxError → String) (format : Format) (options : Options)
    (outcomes : List Outcome) :
    ∀ file ∈ files words format options outcomes, Path.Plain file.1 := by
  intro file present
  have named := List.mem_map_of_mem (f := Prod.fst) present
  rw [map_fst_files, List.mem_append, List.mem_singleton] at named
  rcases named with named | named
  · exact plain_of_mem_names format outcomes _ named
  · rw [named]
    unfold Path.Plain
    decide

theorem mem_files_of_ok (words : SyntaxError → String) {format : Format} (options : Options)
    {outcomes : List Outcome} {p : Planned} (planned : p ∈ plan format outcomes)
    {document : Document} (exported : p.outcome.result = .ok document) :
    ∃ name, (p.entry words).output = some name ∧
      (name, document.text) ∈ files words format options outcomes := by
  have settled := settled_planFrom format _ outcomes p planned
  obtain ⟨name, chosen, written⟩ := document?_of_ok settled exported
  rw [output_entry words settled]
  exact ⟨name, chosen, List.mem_append_left _ (List.mem_filterMap.mpr ⟨p, planned, written⟩)⟩

end Batch

namespace Disk

variable {σ : Type} {disk : Disk (StateM σ)} {directory : String}

/-- All files are written into the directory, one after the other, from one state to another. -/
inductive WritesAll (disk : Disk (StateM σ)) (directory : String) :
    List (String × String) → σ → σ → Prop where
  | nil {s : σ} : WritesAll disk directory [] s s
  | cons {name content : String} {rest : List (String × String)} {s s' s'' : σ} :
      disk.write (Path.join directory name) content s = (true, s') →
        WritesAll disk directory rest s' s'' →
        WritesAll disk directory ((name, content) :: rest) s s''

theorem writeAll_eq_ok {files : List (String × String)} {s s' : σ}
    (written : disk.WritesAll directory files s s') :
    Batch.writeAll disk directory files s = (.ok (), s') := by
  induction written with
  | nil => rfl
  | cons here _ ih =>
    unfold Batch.writeAll
    simp only [bind, StateT.bind, here]
    exact ih

theorem writesAll_of_ok {files : List (String × String)} {s s' : σ}
    (ran : Batch.writeAll disk directory files s = (.ok (), s')) :
    disk.WritesAll directory files s s' := by
  induction files generalizing s with
  | nil =>
    cases ran
    exact .nil
  | cons file rest ih =>
    obtain ⟨name, content⟩ := file
    cases step : disk.write (Path.join directory name) content s with
    | mk done s₁ =>
      unfold Batch.writeAll at ran
      simp only [bind, StateT.bind, step] at ran
      cases done with
      | true => exact .cons step (ih ran)
      | false => cases ran

theorem read_other_of_writesAll (replaces : disk.Replaces) {files : List (String × String)}
    {s s' : σ} (written : disk.WritesAll directory files s s')
    (plain : ∀ file ∈ files, Path.Plain file.1) {other : String} (plain' : Path.Plain other)
    (absent : other ∉ files.map Prod.fst) :
    (disk.read? (Path.join directory other) s').1 =
      (disk.read? (Path.join directory other) s).1 := by
  induction written with
  | nil => rfl
  | cons here _ ih =>
    obtain ⟨plainHere, plainRest⟩ := List.forall_mem_cons.mp plain
    rw [List.map_cons, List.mem_cons, not_or] at absent
    rw [ih plainRest absent.2, replaces.read_other plainHere plain' (Ne.symm absent.1) here]

/-- Files with names of their own all hold what was written to them. -/
theorem read_of_writesAll (replaces : disk.Replaces) {files : List (String × String)} {s s' : σ}
    (written : disk.WritesAll directory files s s') (plain : ∀ file ∈ files, Path.Plain file.1)
    (distinct : (files.map Prod.fst).Nodup) :
    ∀ file ∈ files, (disk.read? (Path.join directory file.1) s').1 = some file.2 := by
  induction written with
  | nil => exact fun _ absent => nomatch absent
  | cons here later ih =>
    obtain ⟨plainHere, plainRest⟩ := List.forall_mem_cons.mp plain
    obtain ⟨fresh, distinctRest⟩ := List.nodup_cons.mp distinct
    rw [List.forall_mem_cons]
    refine ⟨?_, ih plainRest distinctRest⟩
    rw [read_other_of_writesAll replaces later plainRest plainHere fresh]
    exact replaces.read_write here

end Disk

/-! ## Whole batches -/

namespace Batch

/-- What a batch leaves behind in a state of the disk.

* `entries`: an entry for each outcome, in order, with an output or an error.
* `total`, `exported`: the numbers in the manifest.
* `distinct`, `reserved`, `shape`: the names of the documents.
* `documents`, `listed`: every document is there under its name, and so is the manifest. -/
structure Complete {σ : Type} (disk : Disk (StateM σ)) (directory : String) (format : Format)
    (outcomes : List Outcome) (result : Manifest) (s : σ) : Prop where
  entries : List.Forall₂ Reports outcomes result.files
  total : result.exported + result.failed = outcomes.length
  exported : result.exported = (outputs result).length
  distinct : (outputs result).Nodup
  reserved : Manifest.fileName ∉ outputs result
  shape : ∀ name ∈ outputs result, (∃ front, name = front ++ ("." ++ format.extension)) ∧
    ∀ c ∈ name.toList, c ≠ '/' ∧ c ≠ '\\' ∧ c ≠ ':'
  documents : List.Forall₂ (fun outcome entry => ∀ document, outcome.result = .ok document →
    ∃ name, entry.output = some name ∧
      (disk.read? (Path.join directory name) s).1 = some document.text) outcomes result.files
  listed : (disk.read? (Path.join directory Manifest.fileName) s).1 = some result.render

theorem forall₂_manifest {R : Outcome → ManifestEntry → Prop} (words : SyntaxError → String)
    (format : Format) (options : Options) (outcomes : List Outcome)
    (each : ∀ p ∈ plan format outcomes, R p.outcome (p.entry words)) :
    List.Forall₂ R outcomes (manifest words format options outcomes).files := by
  have sources : (plan format outcomes).map Planned.outcome = outcomes :=
    map_outcome_planFrom format _ outcomes
  have along : List.Forall₂ R ((plan format outcomes).map Planned.outcome)
      (manifest words format options outcomes).files := by
    rw [manifest, List.forall₂_map_left_iff, List.forall₂_map_right_iff, List.forall₂_same]
    exact each
  rw [sources] at along
  exact along

theorem exported_manifest (words : SyntaxError → String) (format : Format) (options : Options)
    (outcomes : List Outcome) :
    (manifest words format options outcomes).exported +
        (manifest words format options outcomes).failed = outcomes.length ∧
      (manifest words format options outcomes).exported =
        (outputs (manifest words format options outcomes)).length := by
  have each : ∀ entry ∈ (manifest words format options outcomes).files,
      entry.error.isSome = !entry.output.isSome := by
    intro entry present
    obtain ⟨p, planned, rfl⟩ := List.mem_map.mp present
    obtain ⟨-, output, error⟩ := reports_entry words (settled_planFrom format _ outcomes p planned)
    rw [output, error]
  have counted := length_output_add_error each
  have sources := (forall₂_manifest words format options outcomes fun p planned =>
    reports_entry words (settled_planFrom format _ outcomes p planned)).length_eq
  unfold Manifest.exported Manifest.failed outputs
  omega

/-- Something is exported if some outcome is a document. -/
theorem exported_ne_zero_iff (words : SyntaxError → String) (format : Format) (options : Options)
    (outcomes : List Outcome) :
    (manifest words format options outcomes).exported ≠ 0 ↔
      ∃ outcome ∈ outcomes, ∃ document, outcome.result = .ok document := by
  have sources : (plan format outcomes).map Planned.outcome = outcomes :=
    map_outcome_planFrom format _ outcomes
  have settled := settled_planFrom format [Manifest.fileName] outcomes
  rw [(exported_manifest words format options outcomes).2, outputs_manifest,
    ← Nat.pos_iff_ne_zero, List.length_pos_iff_exists_mem]
  constructor
  · rintro ⟨name, present⟩
    obtain ⟨p, planned, chosen⟩ := List.mem_filterMap.mp present
    obtain ⟨document, exported, -⟩ := document?_of_name (settled p planned) chosen
    exact ⟨p.outcome, sources ▸ List.mem_map_of_mem planned, document, exported⟩
  · rintro ⟨outcome, present, document, exported⟩
    rw [← sources] at present
    obtain ⟨p, planned, rfl⟩ := List.mem_map.mp present
    obtain ⟨name, chosen, -⟩ := document?_of_ok (settled p planned) exported
    exact ⟨name, List.mem_filterMap.mpr ⟨p, planned, chosen⟩⟩

section Disks

variable {σ : Type} {disk : Disk (StateM σ)}

theorem write_eq_ok (words : SyntaxError → String) (format : Format) (options : Options)
    (outcomes : List Outcome) {directory : String} {s s₁ s₂ : σ}
    (made : disk.createDirectories directory s = (true, s₁))
    (written : disk.WritesAll directory (files words format options outcomes) s₁ s₂) :
    write disk words format options outcomes directory s =
      (.ok (manifest words format options outcomes), s₂) := by
  have all := Disk.writeAll_eq_ok written
  unfold files at all
  unfold write
  simp only [bind, StateT.bind, made, all, if_true]
  rfl

/-- A batch whose directory is made and whose files can all be written succeeds. Its manifest
accounts for every source, and afterwards every document is there under a name of its own, whatever
the directory held before. -/
theorem batch_write_complete (replaces : disk.Replaces) (words : SyntaxError → String)
    (format : Format) (options : Options) (outcomes : List Outcome) (directory : String)
    {s s₁ s₂ : σ} (made : disk.createDirectories directory s = (true, s₁))
    (written : disk.WritesAll directory (files words format options outcomes) s₁ s₂) :
    write disk words format options outcomes directory s =
        (.ok (manifest words format options outcomes), s₂) ∧
      Complete disk directory format outcomes (manifest words format options outcomes) s₂ := by
  have settled := settled_planFrom format [Manifest.fileName] outcomes
  have read := Disk.read_of_writesAll replaces written
    (plain_files words format options outcomes) (nodup_map_fst_files words format options outcomes)
  obtain ⟨total, exported⟩ := exported_manifest words format options outcomes
  refine ⟨write_eq_ok words format options outcomes made written, ?_⟩
  constructor
  case entries =>
    exact forall₂_manifest words format options outcomes fun p planned =>
      reports_entry words (settled p planned)
  case total => exact total
  case exported => exact exported
  case distinct =>
    rw [outputs_manifest]
    exact nodup_names format outcomes
  case reserved =>
    rw [outputs_manifest]
    exact fileName_not_mem_names format outcomes
  case shape =>
    rw [outputs_manifest]
    exact shape_names format outcomes
  case documents =>
    refine forall₂_manifest words format options outcomes fun p planned document exported => ?_
    obtain ⟨name, output, present⟩ := mem_files_of_ok words options planned exported
    exact ⟨name, output, read _ present⟩
  case listed =>
    exact read _ (List.mem_append_right _ (List.mem_singleton_self _))

end Disks

/-- Two sources with the same flat name, one that fails and one with the name of the manifest. -/
def colliding : List Outcome :=
  [⟨"src/a.rs", none, .ok ⟨"first", 1⟩⟩, ⟨"src\\a.rs", none, .ok ⟨"second", 2⟩⟩,
    ⟨"b.rs", none, .error (.grammar ⟨1, 0⟩)⟩, ⟨"manifest", none, .ok ⟨"third", 3⟩⟩]

/-- The directory holds an old document under the first name. -/
theorem batch_write_complete_colliding :
    let result := manifest SyntaxError.wording .json {} colliding
    let root : Entry :=
      .directory [("out", .directory [("src__a.rs.json", .file (.text "old"))])]
    let root' : Entry :=
      .directory [("out", .directory [("src__a.rs.json", .file (.text "first")),
        ("src__a.rs-1.json", .file (.text "second")), ("manifest-1.json", .file (.text "third")),
        ("manifest.json", .file (.text result.render))])]
    (Disk.tree.Replaces ∧ Disk.tree.createDirectories "out" root = (true, root) ∧
      Disk.tree.WritesAll "out" (files SyntaxError.wording .json {} colliding) root root') ∧
    write Disk.tree SyntaxError.wording .json {} colliding "out" root = (.ok result, root') ∧
    Complete Disk.tree "out" .json colliding result root' := by
  intro result root root'
  have made : Disk.tree.createDirectories "out" root = (true, root) := rfl
  have documents : (plan .json colliding).filterMap Planned.document? =
      [("src__a.rs.json", "first"), ("src__a.rs-1.json", "second"),
        ("manifest-1.json", "third")] := by decide
  have written : Disk.tree.WritesAll "out" (files SyntaxError.wording .json {} colliding) root
      root' := by
    rw [files, documents]
    exact .cons rfl (.cons rfl (.cons rfl (.cons rfl .nil)))
  exact ⟨⟨Disk.replaces_tree, made, written⟩,
    batch_write_complete Disk.replaces_tree SyntaxError.wording .json {} colliding "out" made
      written⟩

end Batch

end SyntaxExport
