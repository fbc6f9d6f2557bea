/-!
# Decimal numerals

Numbers are written in all formats and in many names by their decimal digits.

Results:
1. `toDigits_eq_cons`: only zero is written with a zero in front.
2. `toString_injective`: two numbers are never written alike.
-/

namespace SyntaxExport.Decimal

theorem digitChar_ne_zero {n : Nat} (positive : 0 < n) (small : n < 10) : n.digitChar ≠ '0' := by
  have all : ∀ k : Fin 10, 0 < k.1 → k.1.digitChar ≠ '0' := by decide
  exact all ⟨n, small⟩ positive

theorem toDigits_eq_cons {n : Nat} (positive : 0 < n) :
    ∃ d ds, Nat.toDigits 10 n = d :: ds ∧ d ≠ '0' := by
  induction n using Nat.strongRecOn with
  | ind n ih =>
    by_cases small : n < 10
    · exact ⟨n.digitChar, [], Nat.toDigits_of_lt_base small, digitChar_ne_zero positive small⟩
    · obtain ⟨d, ds, spelled, nonzero⟩ := ih (n / 10) (by omega) (by omega)
      refine ⟨d, ds ++ [(n % 10).digitChar], ?_, nonzero⟩
      rw [Nat.toDigits_of_base_le (by decide) (by omega), spelled, List.cons_append]

theorem isDigit_of_mem_toDigits (n : Nat) : ∀ d ∈ Nat.toDigits 10 n, d.isDigit :=
  fun _ present => Nat.isDigit_of_mem_toDigits (by decide) (by decide) present

theorem toList_toString (n : Nat) : (toString n).toList = Nat.toDigits 10 n := by
  rw [Nat.toString_eq_repr, Nat.toList_repr]

theorem toString_injective {m n : Nat} (same : toString m = toString n) : m = n := by
  have digits := congrArg String.toList same
  rw [toList_toString, toList_toString] at digits
  have value := congrArg (Nat.ofDigitChars 10 · 0) digits
  rw [Nat.ofDigitChars_ten_toDigits, Nat.ofDigitChars_ten_toDigits] at value
  exact value

end SyntaxExport.Decimal
