import SyntaxExport.Proofs.Decimal
import SyntaxExport.Proofs.Numbering
import SyntaxExport.Proofs.Outline
import SyntaxExport.Proofs.Summary

/-!
# The shape of a tree in its outline

An outline shows a tree by indents alone. A line starts with two characters for every level above
its node, none of them a quote, and then a quote follows, because a line always shows a summary
first. So the levels can be read off the lines, and the parent of a line is the nearest line above
it that is less deep.

A break inside a line would shift all lines after it. Summaries have none, and a type name with one
is the only way to get it.

Results:
1. `exists_lines`: an outline is made of lines, one for each node, in pre-order.
2. `childPairs_eq`: the levels of some siblings and of all below them tell the parent of each.
3. `outline_shape`: the lines of an outline are those of its nodes, and the tree can be read off
   them.
-/

namespace SyntaxExport

/-! ## Levels -/

namespace Node

/-- The nodes of some siblings at a level and of all below them, in pre-order, each with its own
level. -/
def leveled (level : Nat) : List Node → List (Nat × Node)
  | [] => []
  | n :: rest => (level, n) :: (leveled (level + 1) n.children ++ leveled level rest)
termination_by nodes => total nodes
decreasing_by
  · rw [total_cons, count_eq]
    omega
  · have := n.count_pos
    rw [total_cons]
    omega

/-- How deep the nodes of a tree are, in pre-order. -/
def depths (root : Node) : List Nat :=
  (leveled 0 [root]).map Prod.fst

theorem leveled_singleton (level : Nat) (n : Node) :
    leveled level [n] = (level, n) :: leveled (level + 1) n.children := by
  rw [leveled, leveled, List.append_nil]

theorem map_snd_leveled (level : Nat) (nodes : List Node) :
    (leveled level nodes).map Prod.snd = nodes.flatMap preorder := by
  fun_induction leveled level nodes with
  | case1 => rfl
  | case2 level n rest ihBelow ihRest =>
    rw [List.map_cons, List.map_append, ihBelow, ihRest, List.flatMap_cons, preorder_eq,
      List.cons_append]

theorem zip_depths_preorder (root : Node) :
    root.depths.zip root.preorder = leveled 0 [root] := by
  have nodes : (leveled 0 [root]).map Prod.snd = root.preorder := by
    rw [map_snd_leveled, List.flatMap_singleton]
  exact (List.zip_of_prod rfl nodes).symm

theorem length_leveled (level : Nat) (nodes : List Node) :
    (leveled level nodes).length = total nodes := by
  rw [← List.length_map Prod.snd, map_snd_leveled, length_flatMap_preorder]

theorem le_of_mem_leveled {level : Nat} {nodes : List Node} {entry : Nat × Node}
    (present : entry ∈ leveled level nodes) : level ≤ entry.1 := by
  fun_induction leveled level nodes with
  | case1 => cases present
  | case2 level n rest ihBelow ihRest =>
    rcases List.mem_cons.mp present with here | later
    · exact Nat.le_of_eq (congrArg Prod.fst here).symm
    · rcases List.mem_append.mp later with below | after
      · exact Nat.le_of_succ_le (ihBelow below)
      · exact ihRest after

end Node

namespace Encoder.Outline

/-! ## Parents from levels -/

/-- The nearest of the first `k` lines, from below, that is less deep than `level`. -/
def nearest? (depths : List Nat) (level : Nat) : (k : Nat) → Option Nat
  | 0 => none
  | k + 1 => if depths.getD k 0 < level then some k else nearest? depths level k

/-- The parents that the depths of lines tell, as pairs of a line and its parent. -/
def parents (depths : List Nat) : List (Nat × Nat) :=
  (List.range depths.length).filterMap fun k =>
    (nearest? depths (depths.getD k 0) k).map (k, ·)

theorem nearest?_eq {depths : List Nat} {level owner k : Nat} (before : owner < k)
    (shallow : depths.getD owner 0 < level)
    (between : ∀ j, owner < j → j < k → level ≤ depths.getD j 0) :
    nearest? depths level k = some owner := by
  induction k with
  | zero => cases before
  | succ k ih =>
    rw [nearest?]
    rcases Nat.lt_succ_iff_lt_or_eq.mp before with earlier | last
    · have deep : ¬depths.getD k 0 < level :=
        Nat.not_lt.mpr (between k earlier (Nat.lt_succ_self k))
      rw [if_neg deep]
      exact ih earlier fun j after before => between j after (Nat.lt_succ_of_lt before)
    · rw [← last, if_pos shallow]

theorem le_getD_of_tabulates {depths : List Nat} {level start : Nat} {levels : List Nat}
    (table : Tabulates (fun k => depths[k]?) start levels) (deep : ∀ d ∈ levels, level ≤ d)
    {j : Nat} (after : start ≤ j) (before : j < start + levels.length) :
    level ≤ depths.getD j 0 := by
  induction levels generalizing start with
  | nil => exact absurd before (Nat.not_lt.mpr after)
  | cons d rest ih =>
    rw [List.forall_mem_cons] at deep
    have here : depths[start]? = some d := table.1
    rcases Nat.eq_or_lt_of_le after with first | later
    · rw [List.getD_eq_getElem?_getD, ← first, here]
      exact deep.1
    · rw [List.length_cons] at before
      exact ih table.2 deep.2 later (by omega)

/-- Siblings whose levels stand in a list of depths from `next` on, below the line `owner`. The
lines between are as deep as the siblings, so none of them is taken for the parent. -/
theorem childPairs_eq {depths : List Nat} {level owner next : Nat} {nodes : List Node}
    (table : Tabulates (fun k => depths[k]?) next ((Node.leveled level nodes).map Prod.fst))
    (before : owner < next) (shallow : depths.getD owner 0 < level)
    (between : ∀ j, owner < j → j < next → level ≤ depths.getD j 0) :
    (List.range' next (Node.total nodes)).filterMap
        (fun k => (nearest? depths (depths.getD k 0) k).map (k, ·)) =
      Node.childPairs owner next nodes := by
  fun_induction Node.childPairs owner next nodes generalizing level with
  | case1 => rfl
  | case2 owner next c rest ihBelow ihRest =>
    rw [Node.leveled, List.map_cons, List.map_append] at table
    have here : depths[next]? = some level := table.1
    obtain ⟨inside, beyond⟩ := tabulates_append.mp table.2
    rw [List.length_map, Node.length_leveled] at beyond
    have own : depths.getD next 0 = level := by
      rw [List.getD_eq_getElem?_getD, here, Option.getD_some]
    have start : next + c.count = next + 1 + Node.total c.children := by
      rw [Node.count_eq]
      omega
    have split : Node.total (c :: rest) = Node.total c.children + Node.total rest + 1 := by
      rw [Node.total_cons, Node.count_eq]
      omega
    have found : nearest? depths (depths.getD next 0) next = some owner := by
      rw [own]
      exact nearest?_eq before shallow between
    have below := ihBelow inside (Nat.lt_succ_self next) (own ▸ Nat.lt_succ_self level)
      fun j after before => absurd before (Nat.not_lt.mpr after)
    have deep : ∀ j, owner < j → j < next + c.count → level ≤ depths.getD j 0 := by
      intro j after before
      rcases Nat.lt_trichotomy j next with earlier | same | later
      · exact between j after earlier
      · exact Nat.le_of_eq (by rw [same, own])
      · refine le_getD_of_tabulates inside (fun d present => ?_) later ?_
        · obtain ⟨entry, listed, rfl⟩ := List.mem_map.mp present
          exact Nat.le_of_succ_le (Node.le_of_mem_leveled listed)
        · rw [List.length_map, Node.length_leveled, ← start]
          exact before
    have after := ihRest (start ▸ beyond) (Nat.lt_add_right c.count before) shallow deep
    rw [split, List.range'_succ, List.range'_append_1.symm, List.filterMap_cons, found,
      List.filterMap_append, below, ← start, after]
    rfl

theorem parents_depths (root : Node) : parents root.depths = root.parentPairs := by
  have levels : root.depths = 0 :: (Node.leveled 1 root.children).map Prod.fst := by
    rw [Node.depths, Node.leveled_singleton, List.map_cons]
  have length : root.depths.length = Node.total root.children + 1 := by
    rw [levels, List.length_cons, List.length_map, Node.length_leveled]
  have table := tabulates_getElem? [0] ((Node.leveled 1 root.children).map Prod.fst)
  rw [List.singleton_append, ← levels] at table
  have below := childPairs_eq table Nat.zero_lt_one (by rw [levels]; exact Nat.zero_lt_one)
    fun j after before => absurd before (Nat.not_lt.mpr after)
  rw [parents, length, List.range_eq_range', List.range'_succ, List.filterMap_cons]
  exact below

/-! ## Lines -/

/-- What stands before the text of a line at a level: two characters for each level above. -/
structure Indents (level : Nat) (indent : List Char) : Prop where
  length : indent.length = 2 * level
  quoteless : '"' ∉ indent
  unbroken : '\n' ∉ indent

theorem Indents.none : Indents 0 [] :=
  ⟨rfl, List.not_mem_nil, List.not_mem_nil⟩

theorem Indents.append {level : Nat} {indent group : List Char} (indents : Indents level indent)
    (one : Indents 1 group) : Indents (level + 1) (indent ++ group) := by
  refine ⟨?_, ?_, ?_⟩
  · rw [List.length_append, indents.length, one.length, Nat.mul_add]
  · exact fun present => (List.mem_append.mp present).elim indents.quoteless one.quoteless
  · exact fun present => (List.mem_append.mp present).elim indents.unbroken one.unbroken

theorem Indents.choose {level : Nat} {a b : String} (closes : Bool)
    (first : Indents level a.toList) (second : Indents level b.toList) :
    Indents level (if closes then a else b).toList := by
  cases closes with
  | false => exact second
  | true => exact first

/-- The line shows the node after an indent for its level. -/
def Shows (render : Node → String) (entry : Nat × Node) (line : List Char) : Prop :=
  ∃ indent, Indents entry.1 indent ∧ line = indent ++ (render entry.2).toList

/-- The number of groups of two characters before the first quote. -/
def groups (line : List Char) : Nat :=
  (line.takeWhile (· ≠ '"')).length / 2

theorem exists_lines_branches (render : Node → String) {level : Nat} (indent : String)
    (nodes : List Node) (indents : Indents level indent.toList) :
    ∃ lines : List (List Char),
      (branches render indent nodes).toList = lines.flatMap (· ++ ['\n']) ∧
        List.Forall₂ (Shows render) (Node.leveled (level + 1) nodes) lines := by
  fun_induction branches render indent nodes generalizing level with
  | case1 => exact ⟨[], rfl, by rw [Node.leveled]; exact .nil⟩
  | case2 indent n rest ihBelow ihRest =>
    have connector : Indents 1 (if rest.isEmpty then "└─" else "├─").toList :=
      .choose _ ⟨by decide, by decide, by decide⟩ ⟨by decide, by decide, by decide⟩
    have continuation : Indents 1 (if rest.isEmpty then "  " else "│ ").toList :=
      .choose _ ⟨by decide, by decide, by decide⟩ ⟨by decide, by decide, by decide⟩
    have deeper := indents.append continuation
    rw [← String.toList_append] at deeper
    obtain ⟨below, drawn, shown⟩ := ihBelow deeper
    obtain ⟨after, drawn', shown'⟩ := ihRest indents
    have own : Shows render (level + 1, n)
        (indent.toList ++ (if rest.isEmpty then "└─" else "├─").toList ++ (render n).toList) :=
      ⟨_, indents.append connector, rfl⟩
    refine ⟨(indent.toList ++ (if rest.isEmpty then "└─" else "├─").toList ++ (render n).toList) ::
      (below ++ after), ?_, ?_⟩
    · have drawn : (branches render (indent ++ if rest.isEmpty then "  " else "│ ")
          n.children).toList = below.flatMap (· ++ ['\n']) := drawn
      simp only [String.toList_append, drawn, drawn', List.flatMap_cons, List.flatMap_append,
        List.append_assoc]
      rfl
    · rw [Node.leveled]
      exact .cons own (List.rel_append shown shown')

theorem exists_lines (render : Node → String) (root : Node) :
    ∃ lines : List (List Char),
      ((outline render).run .empty root).toList = lines.flatMap (· ++ ['\n']) ∧
        List.Forall₂ (Shows render) (root.depths.zip root.preorder) lines := by
  obtain ⟨below, drawn, shown⟩ :=
    exists_lines_branches render "" root.children Indents.none
  have top : Shows render (0, root) (render root).toList := ⟨[], Indents.none, rfl⟩
  refine ⟨(render root).toList :: below, ?_, ?_⟩
  · rw [run_eq_sketch, sketch, String.toList_append, String.toList_append, drawn,
      List.flatMap_cons]
    rfl
  · rw [Node.zip_depths_preorder, Node.leveled_singleton]
    exact .cons top shown

/-! ## Texts of lines -/

theorem unbroken_toDigits (k : Nat) : '\n' ∉ Nat.toDigits 10 k := fun present =>
  absurd (Decimal.isDigit_of_mem_toDigits k _ present) (by decide)

theorem unbroken_parenthesized (coordinates : Option Coordinates) :
    '\n' ∉ (Coordinates.parenthesized coordinates).toList := by
  cases coordinates with
  | none => decide
  | some c =>
    have spelled : Coordinates.parenthesized (some c) = "(" ++ toString c.startLine ++ "," ++
        toString c.startColumn ++ ")-(" ++ toString c.endLine ++ "," ++
        toString c.endColumn ++ ")" := rfl
    simp [spelled, unbroken_toDigits]

theorem unbroken_line (style : LineStyle) {n : Node} (plain : '\n' ∉ n.typeName.toList) :
    '\n' ∉ (line style n).toList := by
  have summary := n.unbroken_summary.1
  cases style with
  | summaryTypeRange =>
    simp [line, quotedSummary, summary, plain, unbroken_parenthesized]
  | summaryType => simp [line, quotedSummary, summary, plain]

theorem exists_quote_line (style : LineStyle) (n : Node) :
    ∃ rest, (line style n).toList = '"' :: rest := by
  cases style with
  | summaryTypeRange =>
    simp only [line, quotedSummary, String.toList_append, List.append_assoc]
    exact ⟨_, rfl⟩
  | summaryType =>
    simp only [line, quotedSummary, String.toList_append, List.append_assoc]
    exact ⟨_, rfl⟩

/-- A line starts with a quote, so the indent ends where the first quote is. -/
theorem groups_of_shows {style : LineStyle} {entry : Nat × Node} {text : List Char}
    (shows : Shows (line style) entry text) : groups text = entry.1 := by
  obtain ⟨indent, indents, rfl⟩ := shows
  obtain ⟨rest, quoted⟩ := exists_quote_line style entry.2
  have before : ∀ c ∈ indent, decide (c ≠ '"') = true := fun c present =>
    decide_eq_true fun same => indents.quoteless (same ▸ present)
  rw [groups, quoted, List.takeWhile_append_of_pos before]
  simp [indents.length]

theorem splitOn_lines {lines : List (List Char)} (unbroken : ∀ l ∈ lines, '\n' ∉ l) :
    (lines.flatMap (· ++ ['\n'])).splitOn '\n' = lines ++ [[]] := by
  induction lines with
  | nil => rfl
  | cons first rest ih =>
    rw [List.forall_mem_cons] at unbroken
    rw [List.flatMap_cons, List.append_assoc, List.singleton_append,
      List.splitOn_append_cons_self_of_not_mem unbroken.1, ih unbroken.2, List.cons_append]

theorem unbroken_of_shows {style : LineStyle} {entries : List (Nat × Node)}
    {lines : List (List Char)} (shown : List.Forall₂ (Shows (line style)) entries lines)
    (plain : ∀ entry ∈ entries, '\n' ∉ entry.2.typeName.toList) : ∀ l ∈ lines, '\n' ∉ l := by
  induction shown with
  | nil => exact fun l present => absurd present List.not_mem_nil
  | cons first rest ih =>
    rw [List.forall_mem_cons] at plain ⊢
    obtain ⟨indent, indents, rfl⟩ := first
    refine ⟨fun present => ?_, ih plain.2⟩
    exact (List.mem_append.mp present).elim indents.unbroken (unbroken_line style plain.1)

theorem map_groups_of_shows {style : LineStyle} {entries : List (Nat × Node)}
    {lines : List (List Char)} (shown : List.Forall₂ (Shows (line style)) entries lines) :
    lines.map groups = entries.map Prod.fst := by
  induction shown with
  | nil => rfl
  | cons first rest ih => rw [List.map_cons, List.map_cons, groups_of_shows first, ih]

/-- In both styles, whatever source text the nodes have, the outline of a tree splits into as many
lines as the tree has nodes, and the line with a given number is the one of the node with that rank.
The groups of two characters before the first quote of a line are as many as its node is deep, and
the depths tell the parent of every line. -/
theorem outline_shape (style : LineStyle) (root : Node)
    (plain : ∀ n ∈ root.preorder, '\n' ∉ n.typeName.toList) :
    ∃ lines : List (List Char),
      ((outline (line style)).run .empty root).toList.splitOn '\n' = lines ++ [[]] ∧
        lines.length = root.count ∧
        List.Forall₂ (Shows (line style)) (root.depths.zip root.preorder) lines ∧
        lines.map groups = root.depths ∧
        parents (lines.map groups) = root.parentPairs := by
  obtain ⟨lines, document, shown⟩ := exists_lines (line style) root
  have unbroken : ∀ l ∈ lines, '\n' ∉ l :=
    unbroken_of_shows shown fun entry listed => plain entry.2 (List.of_mem_zip listed).2
  have levels : lines.map groups = root.depths := by
    rw [map_groups_of_shows shown, Node.zip_depths_preorder, Node.depths]
  have length : lines.length = root.count := by
    rw [← shown.length_eq, Node.zip_depths_preorder, Node.length_leveled, Node.total_cons,
      Node.total_nil, Nat.add_zero]
  refine ⟨lines, ?_, length, shown, levels, ?_⟩
  · rw [document, splitOn_lines unbroken]
  · rw [levels, parents_depths]

/-- A text with all kinds of breaks and a comment over two lines, a text that goes beyond its
source, and a type name with a quote. -/
theorem outline_shape_broken_texts :
    let leaf : Node := .mk { typeName := "Lea\"f", text := some ⟨"\"", 0, 2⟩ } [] []
    let tree : Node := .mk { typeName := "Tree", text := some ⟨"a\n/*\n*/\rb\r\nc", 0, 12⟩ }
      [("left", none), ("right", some leaf)] [("rows", [leaf])]
    (∀ n ∈ tree.preorder, '\n' ∉ n.typeName.toList) ∧
      (tree.sourceText?.any fun text => text.toList.contains '\n') = true ∧
      ∃ lines : List (List Char),
        ((outline (line .summaryType)).run .empty tree).toList.splitOn '\n' = lines ++ [[]] ∧
          lines.length = 3 ∧ lines.map groups = [0, 1, 1] ∧
          parents (lines.map groups) = [(1, 0), (2, 0)] := by
  intro leaf tree
  have below : tree.children = [leaf, leaf] := rfl
  have bare : leaf.children = [] := rfl
  have plain : ∀ n ∈ tree.preorder, '\n' ∉ n.typeName.toList := by
    rw [Node.preorder_eq, below]
    simp only [List.flatMap_cons, List.flatMap_nil, Node.preorder_eq leaf, bare]
    decide
  have depths : tree.depths = [0, 1, 1] := by
    simp [Node.depths, Node.leveled, below, bare]
  have related : tree.parentPairs = [(1, 0), (2, 0)] := by
    have single : leaf.count = 1 := rfl
    simp [Node.parentPairs, Node.childPairs, below, bare, single]
  obtain ⟨lines, split, length, _, levels, pairs⟩ := outline_shape .summaryType tree plain
  exact ⟨plain, by decide +kernel, lines, split, length, levels.trans depths, pairs.trans related⟩

end Encoder.Outline

end SyntaxExport
