import Mathlib.Data.Bool.AllAny
import Mathlib.Data.Finset.Card
import Mathlib.Data.Nat.Find
import SyntaxExport.OutputName
import SyntaxExport.Proofs.Decimal

/-!
# Names that are not taken

A document's name is the flat name of its path or one with a number. The search goes from one of
these candidates to the next until one is free. It ends because they are all different: of one more
candidate than there are taken names one is free.

Results:
1. `exists_first_free`: the first free one of different names has no more names before it than are
   taken.
2. `takeFirst?_eq`: where the search stops, and that it changes nothing before.
3. `unique_eq_candidate`, `unique_not_mem`: the chosen name is the first free candidate.
4. `unique_first_free`: the search for a name from its start to its end.
5. `unique_eq`, `forall_mem_unique`: a name ends with the extension, and separators do not occur in
   it.
-/

namespace SyntaxExport.OutputName

/-! ## Candidates -/

theorem numbered_injective (path : String) (format : Format) :
    Function.Injective (numbered path format) := by
  intro m n same
  unfold numbered at same
  rw [String.append_left_inj, String.append_left_inj, String.append_right_inj] at same
  exact Decimal.toString_injective same

/-- Behind the stem stands a point in the one and a hyphen in the other. -/
theorem flat_ne_numbered (path : String) (format : Format) (n : Nat) :
    flat path format ≠ numbered path format n := by
  intro same
  unfold flat numbered at same
  simp only [String.append_assoc, String.append_right_inj] at same
  have chars := congrArg String.toList same
  simp at chars

theorem candidate_injective (path : String) (format : Format) :
    Function.Injective (candidate path format) := by
  intro m n same
  cases m with
  | zero =>
    cases n with
    | zero => rfl
    | succ n => exact absurd same (flat_ne_numbered path format (n + 1))
  | succ m =>
    cases n with
    | zero => exact absurd same.symm (flat_ne_numbered path format (m + 1))
    | succ n => exact numbered_injective path format same

/-! ## The search for a free name -/

theorem register_of_mem {taken : List String} {name : String} (held : name ∈ taken) :
    register taken name = (false, taken) :=
  if_pos (List.contains_iff_mem.mpr held)

theorem register_of_not_mem {taken : List String} {name : String} (free : name ∉ taken) :
    register taken name = (true, name :: taken) :=
  if_neg fun held => free (List.contains_iff_mem.mp held)

section Search

variable {taken : List String} {name : Nat → String}

/-- The search goes on up to the first free name and takes it. Names that are tried before leave the
taken names as they are. -/
theorem takeFirst?_eq {n m : Nat} (start : n ≤ m)
    (passed : ∀ k, n ≤ k → k < m → name k ∈ taken) (free : name m ∉ taken) (tries : Nat) :
    takeFirst? name tries n taken =
      if m < n + tries then some (name m, name m :: taken) else none := by
  induction tries generalizing n with
  | zero => rw [takeFirst?, if_neg (by omega)]
  | succ tries ih =>
    rw [takeFirst?]
    rcases Nat.eq_or_lt_of_le start with rfl | later
    · rw [register_of_not_mem free, if_pos (by omega)]
    · rw [register_of_mem (passed n (Nat.le_refl n) later)]
      show takeFirst? name tries (n + 1) taken = _
      rw [ih later fun k after => passed k (Nat.le_of_succ_le after), Nat.succ_add_eq_add_succ]

/-- Different names cannot all be taken: one of the first is free, of which there are one more than
taken names. -/
theorem exists_first_free (injective : Function.Injective name) :
    ∃ n ≤ taken.toFinset.card, (∀ m < n, name m ∈ taken) ∧ name n ∉ taken := by
  have some_free : ∃ n ≤ taken.toFinset.card, name n ∉ taken := by
    by_contra none_free
    have tried : (Finset.range (taken.toFinset.card + 1)).image name ⊆ taken.toFinset := by
      intro candidate present
      obtain ⟨k, inside, rfl⟩ := Finset.mem_image.mp present
      rw [List.mem_toFinset]
      by_contra free
      exact none_free ⟨k, Nat.lt_succ_iff.mp (Finset.mem_range.mp inside), free⟩
    have fits := Finset.card_le_card tried
    rw [Finset.card_image_of_injective _ injective, Finset.card_range] at fits
    omega
  obtain ⟨bound, few, free⟩ := some_free
  have found : ∃ n, name n ∉ taken := ⟨bound, free⟩
  refine ⟨Nat.find found, (Nat.find_min' found free).trans few, ?_, Nat.find_spec found⟩
  exact fun m before => not_not.mp (Nat.find_min found before)

end Search

/-- The chosen name is the first free candidate. -/
theorem unique_eq_candidate (taken : List String) (path : String) (format : Format) :
    ∃ n ≤ taken.toFinset.card, (∀ m < n, candidate path format m ∈ taken) ∧
      candidate path format n ∉ taken ∧
      unique taken path format = (candidate path format n, candidate path format n :: taken) := by
  obtain ⟨n, few, passed, free⟩ := exists_first_free (candidate_injective path format)
  have enough : n < 0 + (taken.length + 1) := by
    have bound := few.trans taken.toFinset_card_le
    omega
  refine ⟨n, few, passed, free, ?_⟩
  rw [unique, takeFirst?_eq (Nat.zero_le n) (fun k _ => passed k) free, if_pos enough]
  rfl

theorem unique_snd (taken : List String) (path : String) (format : Format) :
    (unique taken path format).2 = (unique taken path format).1 :: taken := by
  obtain ⟨n, -, -, -, chosen⟩ := unique_eq_candidate taken path format
  rw [chosen]

theorem unique_not_mem (taken : List String) (path : String) (format : Format) :
    (unique taken path format).1 ∉ taken := by
  obtain ⟨n, -, -, free, chosen⟩ := unique_eq_candidate taken path format
  rw [chosen]
  exact free

/-- The search ends with one of the first candidates, of which there are one more than taken names;
fewer tries than it takes give nothing, and more give the same. It finds the flat name if that is
free, and otherwise the name with the least number that is. The name was free, and from then on it
is taken, with the names that were taken before and no others. -/
theorem unique_first_free (taken : List String) (path : String) (format : Format) :
    let chosen := unique taken path format
    let ending := "." ++ format.extension
    flat path format = stem path ++ ending ∧
    (∃ n ≤ taken.toFinset.card, ∀ tries,
      takeFirst? (candidate path format) tries 0 taken = if n < tries then some chosen else none) ∧
    (flat path format ∉ taken → chosen.1 = flat path format) ∧
    (flat path format ∈ taken → ∃ n ≥ 1, chosen.1 = stem path ++ "-" ++ toString n ++ ending ∧
      ∀ m ≥ 1, m < n → stem path ++ "-" ++ toString m ++ ending ∈ taken) ∧
    chosen.1 ∉ taken ∧ chosen.2.toFinset = insert chosen.1 taken.toFinset := by
  intro chosen ending
  obtain ⟨n, few, passed, free, found⟩ := unique_eq_candidate taken path format
  have spelled (k : Nat) : numbered path format k = stem path ++ "-" ++ toString k ++ ending := by
    rw [numbered, String.append_assoc]
  refine ⟨?_, ⟨n, few, fun tries => ?_⟩, ?_, ?_, unique_not_mem taken path format, ?_⟩
  · rw [flat, String.append_assoc]
  · rw [takeFirst?_eq (Nat.zero_le n) (fun k _ => passed k) free, Nat.zero_add, ← found]
  · intro flatFree
    cases n with
    | zero => exact congrArg Prod.fst found
    | succ n => exact absurd (passed 0 (Nat.succ_pos n)) flatFree
  · intro flatHeld
    cases n with
    | zero => exact absurd flatHeld free
    | succ n =>
      refine ⟨n + 1, Nat.succ_pos n, ?_, fun m positive before => ?_⟩
      · exact (congrArg Prod.fst found).trans (spelled (n + 1))
      · obtain ⟨k, rfl⟩ := Nat.exists_eq_add_of_le' positive
        rw [← spelled]
        exact passed (k + 1) before
  · rw [unique_snd, List.toFinset_cons]

/-! ## Characters -/

/-- A character that may stand in a flat name. -/
def FlatChar (c : Char) : Prop :=
  c ≠ '/' ∧ c ≠ '\\' ∧ c ≠ ':'

instance : DecidablePred FlatChar :=
  fun c => inferInstanceAs (Decidable (c ≠ '/' ∧ c ≠ '\\' ∧ c ≠ ':'))

theorem forall_mem_flatChar (c : Char) : ∀ d ∈ flatChar c, FlatChar d := by
  unfold flatChar
  split
  · exact List.all_iff_forall_prop.mp (by decide)
  · split
    · exact fun _ absent => nomatch absent
    · rename_i separator colon
      rw [List.forall_mem_singleton]
      simp only [Bool.or_eq_true, decide_eq_true_eq, not_or] at separator
      exact ⟨separator.1, separator.2, colon⟩

theorem forall_mem_stem (path : String) : ∀ c ∈ (stem path).toList, FlatChar c := by
  rw [stem, String.toList_ofList, List.forall_mem_flatMap]
  exact fun c _ => forall_mem_flatChar c

theorem flatChar_of_isDigit {c : Char} (digit : c.isDigit) : FlatChar c := by
  refine ⟨?_, ?_, ?_⟩ <;>
    · rintro rfl
      cases digit

theorem forall_mem_extension (format : Format) :
    ∀ c ∈ ("." ++ format.extension).toList, FlatChar c := by
  refine List.all_iff_forall_prop.mp ?_
  cases format <;> decide

/-- A name is the stem of its path, with or without a number, and the extension. -/
theorem unique_eq (taken : List String) (path : String) (format : Format) :
    ∃ middle : String,
      (unique taken path format).1 = stem path ++ middle ++ ("." ++ format.extension) ∧
      ∀ c ∈ middle.toList, FlatChar c := by
  obtain ⟨n, -, -, -, chosen⟩ := unique_eq_candidate taken path format
  rw [chosen]
  cases n with
  | zero =>
    refine ⟨"", ?_, ?_⟩
    · rw [candidate, flat, String.append_empty, String.append_assoc]
    · exact fun _ absent => nomatch absent
  | succ n =>
    refine ⟨"-" ++ toString (n + 1), ?_, ?_⟩
    · rw [candidate, numbered]
      simp only [String.append_assoc]
    · rw [String.toList_append, List.forall_mem_append, Decimal.toList_toString]
      exact ⟨List.all_iff_forall_prop.mp (by decide), fun c present =>
        flatChar_of_isDigit (Decimal.isDigit_of_mem_toDigits _ c present)⟩

theorem forall_mem_unique (taken : List String) (path : String) (format : Format) :
    ∀ c ∈ (unique taken path format).1.toList, FlatChar c := by
  obtain ⟨middle, spelled, flat⟩ := unique_eq taken path format
  rw [spelled, String.toList_append, String.toList_append, List.forall_mem_append,
    List.forall_mem_append]
  exact ⟨⟨forall_mem_stem path, flat⟩, forall_mem_extension format⟩

end SyntaxExport.OutputName
