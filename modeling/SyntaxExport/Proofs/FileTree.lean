import SyntaxExport.Disk
import SyntaxExport.Path

/-!
# Files that are written and read

A write to a file tree changes one place. What a path leads to depends on the directories of the
tree, and these stay the same, so a write is seen by the paths that lead to its place and by no
others.

Results:
1. `Entry.look_write?`: all other places hold what they held.
2. `Entry.place?_write?`: paths lead where they led before.
3. `Entry.content?_createDirectories?`: making directories changes no file.
4. `Disk.replaces_tree`: on a file tree a written file holds what was written, and files with other
   names in the same directory are left alone.
-/

namespace SyntaxExport

/-! ## Names in a directory -/

namespace Path

/-- A name that stands for an entry of its directory. -/
def Plain (name : String) : Prop :=
  '/' ∉ name.toList ∧ name ≠ "" ∧ name ≠ "." ∧ name ≠ ".."

theorem pieces_append {directory name : String} (plain : '/' ∉ name.toList) :
    pieces '/' (directory ++ "/" ++ name) = pieces '/' directory ++ [name] := by
  have spelled : (directory ++ "/" ++ name).toList =
      directory.toList ++ '/' :: name.toList := by
    rw [String.toList_append, String.toList_append, List.append_assoc]
    rfl
  rw [pieces, spelled, List.splitOn_append_cons_self, List.splitOn_eq_singleton plain,
    List.map_append, pieces]
  simp

/-- The path of a name in a directory ends with that name, after parts that do not depend on it. -/
theorem pieces_join (directory : String) :
    ∃ front, ∀ name : String, '/' ∉ name.toList →
      pieces '/' (join directory name) = front ++ [name] := by
  unfold join
  by_cases empty : directory.isEmpty
  · refine ⟨[], fun name plain => ?_⟩
    rw [if_pos empty, pieces, List.splitOn_eq_singleton plain]
    simp
  · by_cases slash : directory.toList.getLast? == some '/'
    · obtain ⟨front, spelled⟩ := List.getLast?_eq_some_iff.mp (beq_iff_eq.mp slash)
      refine ⟨pieces '/' (String.ofList front), fun name plain => ?_⟩
      have same : directory = String.ofList front ++ "/" := by
        rw [← String.toList_inj, String.toList_append, String.toList_ofList]
        exact spelled
      rw [if_neg empty, if_pos slash, same]
      exact pieces_append plain
    · refine ⟨pieces '/' directory, fun name plain => ?_⟩
      rw [if_neg empty, if_neg slash]
      exact pieces_append plain

end Path

/-! ## Places -/

namespace Entry

theorem lookup_putIn_self (name : String) (child : Entry) (entries : List (String × Entry)) :
    (putIn name child entries).lookup name = some child := by
  induction entries with
  | nil => simp [putIn]
  | cons entry rest ih =>
    obtain ⟨other, e⟩ := entry
    by_cases same : other = name
    · simp [putIn, same]
    · have differs : (name == other) = false := beq_eq_false_iff_ne.mpr (Ne.symm same)
      simp [putIn, same, List.lookup_cons, differs, ih]

theorem lookup_putIn_of_ne {name other : String} (differs : other ≠ name) (child : Entry)
    (entries : List (String × Entry)) :
    (putIn name child entries).lookup other = entries.lookup other := by
  have skipped : (other == name) = false := beq_eq_false_iff_ne.mpr differs
  induction entries with
  | nil => simp [putIn, List.lookup_cons, skipped]
  | cons entry rest ih =>
    obtain ⟨first, e⟩ := entry
    by_cases same : first = name
    · simp [putIn, same, List.lookup_cons, skipped]
    · simp [putIn, same, List.lookup_cons, ih]

/-- What can be seen at a place without going on from there: a directory, or a file's content. -/
def look (root : Entry) (place : List String) : Option (Option Content) :=
  (root.at? place).map fun e =>
    match e with
    | .directory _ => none
    | .file content => some content

theorem look_cons (e : Entry) (name : String) (rest : List String) :
    e.look (name :: rest) = (e.entries.lookup name).bind fun child => child.look rest := by
  rw [look, at?]
  cases e.entries.lookup name <;> rfl

theorem look_nil_of_lookup {e child : Entry} {name : String}
    (found : e.entries.lookup name = some child) : e.look [] = some none := by
  cases e with
  | directory => rfl
  | file => cases found

/-- Nothing lies below a place that is not a directory. -/
theorem look_below {e : Entry} (bare : e.look [] ≠ some none) {place : List String}
    (below : place ≠ []) : e.look place = none := by
  cases e with
  | directory => exact absurd rfl bare
  | file content =>
    cases place with
    | nil => exact absurd rfl below
    | cons => rfl

/-- A change below a directory is one of its entries set: to the child itself, or to what the entry
becomes. -/
theorem put_cons {e e' child : Entry} {name : String} {rest : List String}
    (changed : e.put child (name :: rest) = some e') :
    e.look [] = some none ∧ ∃ inner', e' = .directory (putIn name inner' e.entries) ∧
      (rest = [] ∧ inner' = child ∨
        ∃ inner, e.entries.lookup name = some inner ∧ inner.put child rest = some inner') := by
  cases rest with
  | nil =>
    cases e with
    | file => cases changed
    | directory entries =>
      cases changed
      exact ⟨rfl, child, rfl, .inl ⟨rfl, rfl⟩⟩
  | cons next rest =>
    rw [put] at changed
    · split at changed
      case h_1 inner found =>
        obtain ⟨inner', below, rfl⟩ := Option.map_eq_some_iff.mp changed
        exact ⟨look_nil_of_lookup found, inner', rfl, .inr ⟨inner, found, below⟩⟩
      case h_2 => cases changed
    · exact fun nothing => nomatch nothing

theorem at?_put {child : Entry} {place : List String} {e e' : Entry}
    (changed : e.put child place = some e') : e'.at? place = some child := by
  induction place generalizing e e' with
  | nil => cases changed
  | cons name rest ih =>
    obtain ⟨-, inner', rfl, within⟩ := put_cons changed
    rw [at?, entries, lookup_putIn_self]
    rcases within with ⟨rfl, rfl⟩ | ⟨inner, -, below⟩
    · rfl
    · exact ih below

/-- A file or an empty directory: nothing lies below it. -/
def IsLeaf (e : Entry) : Prop :=
  ∀ below, below ≠ [] → e.look below = none

theorem isLeaf_file (content : Content) : (file content).IsLeaf := by
  intro below onward
  have bare : (file content).look [] ≠ some none := by simp [look, at?]
  exact look_below bare onward

theorem isLeaf_empty : empty.IsLeaf := by
  intro below onward
  cases below with
  | nil => exact absurd rfl onward
  | cons => rfl

theorem look_put_of_ne {child : Entry} (leaf : child.IsLeaf) {place : List String} {e e' : Entry}
    (changed : e.put child place = some e') (bare : e.look place ≠ some none)
    {other : List String} (differs : other ≠ place) : e'.look other = e.look other := by
  induction place generalizing e e' other with
  | nil => cases changed
  | cons name rest ih =>
    obtain ⟨isDirectory, inner', rfl, within⟩ := put_cons changed
    cases other with
    | nil => exact isDirectory.symm
    | cons first others =>
      rw [look_cons, look_cons, entries]
      by_cases same : first = name
      · subst same
        rw [lookup_putIn_self, Option.bind_some]
        have onward : others ≠ rest := fun equal => differs (equal ▸ rfl)
        rw [look_cons] at bare
        rcases within with ⟨rfl, rfl⟩ | ⟨inner, found, below⟩
        · -- what was there before is no directory, so nothing lay below it either
          rw [leaf others onward]
          cases found : e.entries.lookup first with
          | none => rfl
          | some inner =>
            rw [found] at bare
            exact (look_below bare onward).symm
        · rw [found] at bare ⊢
          exact ih below bare onward
      · rw [lookup_putIn_of_ne same]

/-! ## Paths -/

theorem placeFrom?_cons (root : Entry) (place : List String) (part : String)
    (rest : List String) :
    root.placeFrom? place (part :: rest) =
      if root.look place = some none then
        if part == "" || part == "." then root.placeFrom? place rest
        else if part == ".." then
          if place.isEmpty then none else root.placeFrom? place.dropLast rest
        else root.placeFrom? (place ++ [part]) rest
      else none := by
  rw [placeFrom?, look]
  cases root.at? place with
  | none => rfl
  | some e => cases e <;> rfl

theorem placeFrom?_congr {root root' : Entry}
    (directories : ∀ place, root'.look place = some none ↔ root.look place = some none)
    (parts place : List String) : root'.placeFrom? place parts = root.placeFrom? place parts := by
  induction parts generalizing place with
  | nil => rfl
  | cons part rest ih => simp only [placeFrom?_cons, directories, ih]

/-- A path that ends with a plain name leads to a place with that name. -/
theorem getLast?_placeFrom? {root : Entry} {name : String} (plain : Path.Plain name)
    {front place target : List String}
    (leads : root.placeFrom? place (front ++ [name]) = some target) :
    target.getLast? = some name := by
  induction front generalizing place with
  | nil =>
    obtain ⟨-, filled, current, parent⟩ := plain
    rw [List.nil_append, placeFrom?_cons] at leads
    split at leads
    · have here : (name == "" || name == ".") = false := by simp [filled, current]
      have down : (name == "..") = false := by simp [parent]
      rw [here, down] at leads
      cases leads
      exact List.getLast?_concat
    · cases leads
  | cons part rest ih =>
    rw [List.cons_append, placeFrom?_cons] at leads
    split at leads
    · split at leads
      · exact ih leads
      · split at leads
        · split at leads
          · cases leads
          · exact ih leads
        · exact ih leads
    · cases leads

/-- What a write does: it puts a file at a place that is no directory. -/
theorem write?_eq_some {root root' : Entry} {path content : String}
    (written : root.write? path content = some root') :
    ∃ place, root.place? path = some place ∧ root.look place ≠ some none ∧
      root.put (.file (.text content)) place = some root' := by
  unfold write? at written
  obtain ⟨name, -, written⟩ := Option.bind_eq_some_iff.mp written
  obtain ⟨place, leads, written⟩ := Option.bind_eq_some_iff.mp written
  refine ⟨place, leads, ?_⟩
  rw [look]
  split at written
  · cases written
  · split at written
    case h_1 => cases written
    case h_2 bare =>
      refine ⟨?_, written⟩
      cases found : root.at? place with
      | none => exact fun nothing => nomatch nothing
      | some e =>
        cases e with
        | directory entries => exact absurd found (bare entries)
        | file => exact fun nothing => nomatch nothing

theorem place?_write? {root root' : Entry} {path content : String}
    (written : root.write? path content = some root') (other : String) :
    root'.place? other = root.place? other := by
  obtain ⟨place, -, bare, changed⟩ := write?_eq_some written
  have here : root'.look place = some (some (.text content)) := by
    rw [look, at?_put changed]
    rfl
  -- a path is followed through directories, and a write neither makes one nor removes one
  have directories (other : List String) :
      root'.look other = some none ↔ root.look other = some none := by
    by_cases same : other = place
    · rw [same, here]
      exact ⟨fun found => (nomatch found), fun found => absurd found bare⟩
    · rw [look_put_of_ne (isLeaf_file _) changed bare same]
  unfold place?
  split
  · rfl
  · exact placeFrom?_congr directories _ []

theorem find?_write? {root root' : Entry} {path content : String}
    (written : root.write? path content = some root') :
    root'.find? path = some (.file (.text content)) := by
  obtain ⟨place, leads, -, changed⟩ := write?_eq_some written
  rw [find?, place?_write? written, leads, Option.bind_some, at?_put changed]

theorem text?_at? (root : Entry) (place : List String) :
    (root.at? place).bind text? = (root.look place).bind fun seen => seen.bind fun content =>
      (Entry.file content).text? := by
  rw [look]
  cases root.at? place with
  | none => rfl
  | some e => cases e <;> rfl

/-- All other places hold what they held. -/
theorem look_write? {root root' : Entry} {path content : String}
    (written : root.write? path content = some root') {place : List String}
    (apart : root.place? path ≠ some place) : root'.look place = root.look place := by
  obtain ⟨target, leads, bare, changed⟩ := write?_eq_some written
  refine look_put_of_ne (isLeaf_file _) changed bare ?_
  rintro rfl
  exact apart leads

/-- Files at other places hold what they held. -/
theorem text?_find?_write? {root root' : Entry} {path other content : String}
    (written : root.write? path content = some root')
    (apart : root.place? other ≠ root.place? path) :
    (root'.find? other).bind text? = (root.find? other).bind text? := by
  rw [find?, find?, place?_write? written]
  cases found : root.place? other with
  | none => rfl
  | some place =>
    rw [found] at apart
    rw [Option.bind_some, Option.bind_some, text?_at?, text?_at?,
      look_write? written (Ne.symm apart)]

theorem place?_join_ne {root : Entry} {directory name other : String} (plain : Path.Plain name)
    (plain' : Path.Plain other) (differs : name ≠ other) {place : List String}
    (leads : root.place? (Path.join directory name) = some place) :
    root.place? (Path.join directory other) ≠ some place := by
  obtain ⟨front, spelled⟩ := Path.pieces_join directory
  intro leads'
  unfold place? at leads leads'
  split at leads
  · cases leads
  · split at leads'
    · cases leads'
    · rw [spelled name plain.1] at leads
      rw [spelled other plain'.1] at leads'
      -- a place ends in the last name of its path
      have last := getLast?_placeFrom? plain leads
      rw [getLast?_placeFrom? plain' leads'] at last
      exact differs (Option.some.inj last).symm

/-! ## Directories that are made -/

/-- What the file at a place holds. -/
def content? (root : Entry) (place : List String) : Option Content :=
  (root.look place).join

theorem content?_put_empty {root root' : Entry} {place : List String}
    (changed : root.put empty place = some root') (absent : root.at? place = none)
    (other : List String) : root'.content? other = root.content? other := by
  have bare : root.look place = none := by
    rw [look, absent]
    rfl
  unfold content?
  by_cases same : other = place
  · have made : root'.look place = some none := by
      rw [look, at?_put changed]
      rfl
    rw [same, made, bare]
    rfl
  · rw [look_put_of_ne isLeaf_empty changed (bare ▸ fun nothing => nomatch nothing) same]

/-- Directories are made where there is nothing, and no file changes. -/
theorem content?_createFrom? {root root' : Entry} {place parts : List String}
    (made : root.createFrom? place parts = some root') (other : List String) :
    root'.content? other = root.content? other := by
  induction parts generalizing root place with
  | nil =>
    cases made
    rfl
  | cons part rest ih =>
    rw [createFrom?] at made
    split at made
    · exact ih made
    · split at made
      · split at made
        · cases made
        · exact ih made
      · split at made
        case h_1 => exact ih made
        case h_2 => cases made
        case h_3 absent =>
          split at made
          · split at made
            case h_1 root₁ changed =>
              exact (ih made).trans (content?_put_empty changed absent other)
            case h_2 => cases made
          · cases made

theorem content?_createDirectories? {root root' : Entry} {path : String}
    (made : root.createDirectories? path = some root') (other : List String) :
    root'.content? other = root.content? other := by
  unfold createDirectories? at made
  split at made
  · cases made
  · exact content?_createFrom? made other

end Entry

/-! ## Disks -/

namespace Disk

variable {σ : Type}

/-- Writing a file replaces its content, and plain names in a directory are files of their own. -/
structure Replaces (disk : Disk (StateM σ)) : Prop where
  read_write : ∀ {path content s s'}, disk.write path content s = (true, s') →
    (disk.read? path s').1 = some content
  read_other : ∀ {directory name other content s s'}, Path.Plain name → Path.Plain other →
    name ≠ other → disk.write (Path.join directory name) content s = (true, s') →
    (disk.read? (Path.join directory other) s').1 = (disk.read? (Path.join directory other) s).1

theorem createDirectories_tree (path : String) (root : Entry) :
    tree.createDirectories path root =
      match root.createDirectories? path with
      | some root' => (true, root')
      | none => (false, root) := by
  unfold tree change
  dsimp only
  cases root.createDirectories? path <;> rfl

theorem write_tree_eq (path content : String) (root : Entry) :
    tree.write path content root =
      match root.write? path content with
      | some root' => (true, root')
      | none => (false, root) := by
  unfold tree change
  dsimp only
  cases root.write? path content <;> rfl

theorem write_tree {path content : String} {root root' : Entry}
    (written : tree.write path content root = (true, root')) :
    root.write? path content = some root' := by
  rw [write_tree_eq] at written
  split at written
  case h_1 next found =>
    cases written
    exact found
  case h_2 => cases written

theorem replaces_tree : tree.Replaces where
  read_write := by
    intro path content root root' written
    exact congrArg (Option.bind · Entry.text?) (Entry.find?_write? (write_tree written))
  read_other := by
    intro directory name other content root root' plain plain' differs written
    have written := write_tree written
    obtain ⟨place, leads, -, -⟩ := Entry.write?_eq_some written
    refine Entry.text?_find?_write? written ?_
    rw [leads]
    exact Entry.place?_join_ne plain plain' differs leads

end Disk

end SyntaxExport
