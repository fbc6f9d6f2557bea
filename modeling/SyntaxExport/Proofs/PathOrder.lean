import Mathlib.Data.List.Lex
import Mathlib.Data.Prod.Lex
import Mathlib.Data.String.Basic
import SyntaxExport.Loader
import SyntaxExport.Proofs.FileTree

/-!
# The order of sources

Paths are compared part by part, and a path goes on with the names of what it leads to. Sources are
sorted by their paths, those with the same path stay in the order they had, and then only the first
of them is kept. So the result depends on the order of the sources before only as far as several of
them have the same path.

Results:
1. `Path.components_join`, `Path.components_below`: the parts of paths below a directory.
2. `Loader.find?_mergeSort`: the first source with a path is the same before and after sorting.
3. `Loader.pairwise_arrange`: paths are strictly increasing.
4. `Loader.mem_arrange_iff`: of the sources with the same path the first is kept.
-/

namespace SyntaxExport

namespace Path

/-! ## Parts -/

/-- What a part is compared by: its kind, and then the text of a name. -/
def Component.key (c : Component) : ℕ ×ₗ String :=
  toLex (c.rank, c.text)

theorem Component.key_injective : Function.Injective key := by
  intro a b same
  have parts := toLex.injective same
  cases a <;> cases b <;> simp_all [rank, text]

theorem Component.le_iff (a b : Component) : a.le b = true ↔ a.key ≤ b.key := by
  rw [key, key, Prod.Lex.toLex_le_toLex]
  simp [le]

/-- What a path is compared by. -/
def key (path : String) : List (ℕ ×ₗ String) :=
  (components path).map Component.key

/-- The order of paths by their parts, without equality. -/
def Before (a b : String) : Prop :=
  key a < key b

theorem componentsLe_iff (as bs : List Component) :
    componentsLe as bs = true ↔ as.map Component.key ≤ bs.map Component.key := by
  rw [← not_lt]
  fun_induction componentsLe as bs with
  | case1 bs => exact iff_of_true rfl (List.not_lt_nil _)
  | case2 a as => exact iff_of_false Bool.false_ne_true fun least => least (List.nil_lt_cons _ _)
  | case3 a as bs ih =>
    rw [ih, List.map_cons, List.map_cons, List.cons_lt_cons_iff]
    simp
  | case4 a as b bs differ =>
    have keys : b.key ≠ a.key := fun same => differ (Component.key_injective same).symm
    rw [Component.le_iff, List.map_cons, List.map_cons, List.cons_lt_cons_iff, ← not_lt]
    simp [keys]

theorem le_iff (a b : String) : le a b = true ↔ key a ≤ key b :=
  componentsLe_iff _ _

theorem same_iff (a b : String) : same a b = true ↔ key a = key b := by
  rw [same, beq_iff_eq, key, key, (List.map_injective_iff.mpr Component.key_injective).eq_iff]

/-! ## Paths below a directory -/

theorem pieces_slash (path : String) : pieces '/' (path ++ "/") = pieces '/' path ++ [""] := by
  have whole : '/' ∉ "".toList := by simp
  rw [← pieces_append whole, String.append_empty]

theorem pieces_ne_nil (path : String) : pieces '/' path ≠ [] := by
  rw [pieces, ne_eq, List.map_eq_nil_iff]
  exact List.splitOn_ne_nil _ _

theorem isAbsolute_append {path : String} (filled : path ≠ "") (rest : String) :
    isAbsolute (path ++ rest) = isAbsolute path := by
  have some_char : path.toList ≠ [] := mt String.toList_eq_nil_iff.mp filled
  rw [isAbsolute, isAbsolute, String.toList_append, List.head?_append_of_ne_nil _ some_char]

theorem components_slash {path : String} (filled : path ≠ "") :
    components (path ++ "/") = components path := by
  rw [components, components, pieces_slash, isAbsolute_append filled,
    List.head?_append_of_ne_nil _ (pieces_ne_nil path), List.filterMap_append]
  exact congrArg _ (List.append_nil _)

theorem components_append (path : String) {name : String} (whole : '/' ∉ name.toList) :
    components (path ++ "/" ++ name) =
      components (path ++ "/") ++ (Component.ofPart? name).toList := by
  have filled : path ++ "/" ≠ "" := by simp
  rw [components, components, pieces_append whole, pieces_slash, isAbsolute_append filled,
    List.head?_append_of_ne_nil _ (pieces_ne_nil path),
    List.head?_append_of_ne_nil _ (pieces_ne_nil path), List.filterMap_append,
    List.filterMap_append, ← List.append_assoc, ← List.append_assoc]
  refine congrArg₂ (· ++ ·) (List.append_nil _).symm ?_
  cases found : Component.ofPart? name with
  | none => exact List.filterMap_cons_none found
  | some part => exact List.filterMap_cons_some found

instance (name : String) : Decidable (Plain name) :=
  inferInstanceAs (Decidable (_ ∧ _ ∧ _ ∧ _))

theorem Plain.ofPart? {name : String} (plain : Plain name) :
    Component.ofPart? name = some (.name name) := by
  obtain ⟨-, filled, current, parent⟩ := plain
  simp [Component.ofPart?, filled, current, parent]

/-- The path of a name in a directory has one more part than that of the directory. -/
theorem components_join (directory : String) {name : String} (plain : Plain name) :
    components (join directory name) = components directory ++ [.name name] := by
  have last : [Component.name name] = (Component.ofPart? name).toList := by rw [plain.ofPart?]; rfl
  rw [join, last]
  split
  · next empty =>
    have empty : directory = "" := by simpa using empty
    have relative : isAbsolute name = false := by
      rw [isAbsolute, beq_eq_false_iff_ne]
      exact fun first => plain.1 (List.mem_of_mem_head? first)
    have single : pieces '/' name = [name] := by
      rw [pieces, List.splitOn_eq_singleton plain.1, List.map_singleton, String.ofList_toList]
    have dotless : (some name == some ".") = false := by simp [plain.2.2.1]
    rw [components, relative, single, List.head?_cons, dotless, empty,
      List.filterMap_cons_some plain.ofPart?, plain.ofPart?]
    rfl
  · next filled =>
    have filled : directory ≠ "" := by simpa using filled
    split
    · next slash =>
      obtain ⟨front, spelled⟩ := List.getLast?_eq_some_iff.mp (beq_iff_eq.mp slash)
      have same : directory = String.ofList front ++ "/" := by
        rw [← String.toList_inj, String.toList_append, String.toList_ofList]
        exact spelled
      rw [same, components_append _ plain.1]
    · rw [components_append _ plain.1, components_slash filled]

/-- The path of what names lead to from a directory. -/
def below (directory : String) (names : List String) : String :=
  names.foldl join directory

theorem components_below (directory : String) {names : List String}
    (plain : ∀ name ∈ names, Plain name) :
    components (below directory names) = components directory ++ names.map .name := by
  induction names generalizing directory with
  | nil => exact (List.append_nil _).symm
  | cons name names ih =>
    obtain ⟨first, later⟩ := List.forall_mem_cons.mp plain
    rw [below, List.foldl_cons, ← below, ih _ later, components_join directory first,
      List.append_assoc]
    rfl

/-- Different names lead to different paths. -/
theorem below_inj {directory : String} {names others : List String}
    (plain : ∀ name ∈ names, Plain name) (plain' : ∀ name ∈ others, Plain name)
    (same : key (below directory names) = key (below directory others)) : names = others := by
  rw [key, key, (List.map_injective_iff.mpr Component.key_injective).eq_iff,
    components_below directory plain, components_below directory plain'] at same
  refine List.map_injective_iff.mpr (fun a b equal => ?_) (List.append_cancel_left same)
  exact Component.name.inj equal

end Path

namespace Loader

/-! ## Sources with the same path -/

theorem le_trans_path (a b c : InputFile) (first : Path.le a.path b.path = true)
    (second : Path.le b.path c.path = true) : Path.le a.path c.path = true := by
  rw [Path.le_iff] at *
  exact le_trans first second

theorem le_total_path (a b : InputFile) :
    (Path.le a.path b.path || Path.le b.path a.path) = true := by
  rw [Bool.or_eq_true, Path.le_iff, Path.le_iff]
  exact le_total _ _

/-- The first source with a path is the same before and after sorting. -/
theorem find?_mergeSort (files : List InputFile) (path : String) :
    (files.mergeSort fun a b => Path.le a.path b.path).find? (fun f => Path.same f.path path) =
      files.find? fun f => Path.same f.path path := by
  have sorted : (files.filter fun f => Path.same f.path path).Pairwise
      fun a b => Path.le a.path b.path = true := by
    refine List.pairwise_of_forall_mem_list fun a left b right => ?_
    rw [List.mem_filter, Path.same_iff] at left right
    rw [Path.le_iff, left.2, right.2]
  -- sources with the same path are a sorted part of the list, and sorting keeps such a part
  have part := List.sublist_mergeSort le_trans_path le_total_path sorted List.filter_sublist
  have whole := (part.filter fun f => Path.same f.path path).eq_of_length
    (by simp [((List.mergeSort_perm files _).filter _).length_eq])
  rw [← List.head?_filter, ← List.head?_filter, ← whole, List.filter_filter]
  simp

/-- A source takes the place of the next one if both have the same path. -/
theorem dropRepeated_cases (file : InputFile) (rest : List InputFile) :
    (∃ next others, dropRepeated rest = next :: others ∧
      Path.key file.path = Path.key next.path ∧ dropRepeated (file :: rest) = file :: others) ∨
    (∀ next others, dropRepeated rest = next :: others →
      Path.key file.path ≠ Path.key next.path) ∧
      dropRepeated (file :: rest) = file :: dropRepeated rest := by
  rw [dropRepeated]
  cases dropRepeated rest with
  | nil => exact .inr ⟨fun _ _ nothing => (nomatch nothing), rfl⟩
  | cons next others =>
    by_cases same : Path.same file.path next.path
    · exact .inl ⟨next, others, rfl, (Path.same_iff _ _).mp same, if_pos same⟩
    · refine .inr ⟨?_, if_neg same⟩
      rintro _ _ ⟨⟩
      exact mt (Path.same_iff _ _).mpr same

theorem dropRepeated_sublist (files : List InputFile) : (dropRepeated files).Sublist files := by
  induction files with
  | nil => exact .slnil
  | cons file rest ih =>
    rcases dropRepeated_cases file rest with ⟨next, others, kept, -, result⟩ | ⟨-, result⟩
    · rw [kept] at ih
      rw [result]
      exact ((List.sublist_cons_self ..).trans ih).cons_cons file
    · rw [result]
      exact ih.cons_cons file

theorem pairwise_dropRepeated {files : List InputFile}
    (sorted : files.Pairwise fun a b => Path.le a.path b.path = true) :
    (dropRepeated files).Pairwise fun a b => Path.Before a.path b.path := by
  induction files with
  | nil => exact .nil
  | cons file rest ih =>
    obtain ⟨first, later⟩ := List.pairwise_cons.mp sorted
    have strict := ih later
    rcases dropRepeated_cases file rest with ⟨next, others, kept, same, result⟩ | ⟨differ, result⟩
    · rw [kept] at strict
      obtain ⟨least, behind⟩ := List.pairwise_cons.mp strict
      rw [result]
      refine .cons (fun other listed => ?_) behind
      rw [Path.Before, same]
      exact least other listed
    · rw [result]
      refine .cons (fun other listed => ?_) strict
      have order := first other ((dropRepeated_sublist rest).mem listed)
      rw [Path.le_iff] at order
      cases kept : dropRepeated rest with
      | nil =>
        rw [kept] at listed
        cases listed
      | cons next others =>
        -- the next source has another path, and all behind it have larger ones
        have present : next ∈ rest := (dropRepeated_sublist rest).mem (kept ▸ List.mem_cons_self)
        have smaller := first next present
        rw [Path.le_iff] at smaller
        rw [kept] at listed strict
        rcases List.mem_cons.mp listed with rfl | listed
        · exact lt_of_le_of_ne smaller (differ _ _ kept)
        · exact lt_of_le_of_lt smaller ((List.pairwise_cons.mp strict).1 other listed)

/-- Of the sources with the same path the first is kept, and no other. -/
theorem mem_dropRepeated_iff {files : List InputFile}
    (sorted : files.Pairwise fun a b => Path.le a.path b.path = true) (file : InputFile) :
    file ∈ dropRepeated files ↔
      files.find? (fun f => Path.same f.path file.path) = some file := by
  induction files with
  | nil => simp [dropRepeated]
  | cons head rest ih =>
    have strict := pairwise_dropRepeated sorted
    rw [List.find?_cons]
    by_cases same : Path.key head.path = Path.key file.path
    · rw [(Path.same_iff _ _).mpr same, Option.some_inj]
      obtain ⟨others, result⟩ : ∃ others, dropRepeated (head :: rest) = head :: others := by
        rcases dropRepeated_cases head rest with ⟨_, others, -, -, result⟩ | ⟨-, result⟩
        · exact ⟨others, result⟩
        · exact ⟨_, result⟩
      rw [result] at strict ⊢
      constructor
      · intro listed
        rcases List.mem_cons.mp listed with rfl | listed
        · rfl
        · have larger := (List.pairwise_cons.mp strict).1 file listed
          exact absurd same (ne_of_lt larger)
      · rintro rfl
        exact List.mem_cons_self
    · have other : ¬ file = head := fun equal => same (equal ▸ rfl)
      rw [Bool.eq_false_iff.mpr (mt (Path.same_iff _ _).mp same),
        ← ih (List.pairwise_cons.mp sorted).2]
      rcases dropRepeated_cases head rest with ⟨next, others, kept, equal, result⟩ | ⟨-, result⟩
      · have dropped : ¬ file = next := fun found => same (found ▸ equal)
        rw [result, kept, List.mem_cons, List.mem_cons, or_iff_right other, or_iff_right dropped]
      · rw [result, List.mem_cons, or_iff_right other]

theorem pairwise_arrange (files : List InputFile) :
    (arrange files).Pairwise fun a b => Path.Before a.path b.path :=
  pairwise_dropRepeated (List.pairwise_mergeSort le_trans_path le_total_path files)

theorem mem_arrange_iff {files : List InputFile} {file : InputFile} :
    file ∈ arrange files ↔ files.find? (fun f => Path.same f.path file.path) = some file := by
  rw [arrange, mem_dropRepeated_iff
    (List.pairwise_mergeSort le_trans_path le_total_path files), find?_mergeSort]

/-- Lists in the order of paths that hold the same sources are equal. -/
theorem eq_of_increasing {files others : List InputFile}
    (left : files.Pairwise fun a b => Path.Before a.path b.path)
    (right : others.Pairwise fun a b => Path.Before a.path b.path)
    (same : ∀ file, file ∈ files ↔ file ∈ others) : files = others := by
  have once {l : List InputFile} (ordered : l.Pairwise fun a b => Path.Before a.path b.path) :
      l.Nodup := by
    refine ordered.imp fun {a b} smaller equal => ?_
    subst equal
    exact lt_irrefl _ smaller
  refine List.Perm.eq_of_pairwise (fun a b _ _ first second => ?_) left right
    ((List.perm_ext_iff_of_nodup (once left) (once right)).mpr same)
  exact absurd first (lt_asymm second)

end Loader

end SyntaxExport
