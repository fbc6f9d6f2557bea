import Mathlib.Data.String.Basic

/-!
# The order of bytes

Texts are compared by their code points. In UTF-8 the bytes of two texts compare the same way,
because the first byte of a character tells how many follow and longer forms start with larger
bytes.

Results:
1. `precedes_utf8EncodeChar`: the bytes of a smaller character are smaller where they first differ.
2. `bytes_lt_bytes`: a smaller text has smaller bytes.
-/

namespace SyntaxExport.Text

/-- The bytes of a text in UTF-8. -/
def bytes (s : String) : List UInt8 :=
  s.toUTF8.data.toList

theorem bytes_eq (s : String) : bytes s = s.toList.flatMap String.utf8EncodeChar := by
  have spelled : s.toUTF8 = s.toList.utf8Encode := by
    conv_lhs => rw [← String.ofList_toList (s := s)]
    exact String.toByteArray_ofList
  rw [bytes, spelled, List.utf8Encode, List.toList_data_toByteArray]

/-- The two sequences differ, and the first has the smaller byte where they first do. Neither is the
beginning of the other. -/
inductive Precedes : List UInt8 → List UInt8 → Prop where
  | here {x y : UInt8} {front back : List UInt8} : x < y → Precedes (x :: front) (y :: back)
  | later {x : UInt8} {front back : List UInt8} :
      Precedes front back → Precedes (x :: front) (x :: back)

theorem Precedes.append_lt {front back : List UInt8} (precedes : Precedes front back)
    (rest rest' : List UInt8) : front ++ rest < back ++ rest' := by
  induction precedes with
  | here smaller => exact List.Lex.rel smaller
  | later _ ih => exact List.Lex.cons ih

theorem ofNat_lt_ofNat {a b : Nat} (smaller : a < b) (bound : b < 256) :
    UInt8.ofNat a < UInt8.ofNat b := by
  rw [UInt8.lt_iff_toNat_lt, UInt8.toNat_ofNat', UInt8.toNat_ofNat']
  omega

/-- Bytes made of the leading digits decide, and if these are the same the others do. -/
theorem Precedes.digit {a b : Nat} {front back : List UInt8} (order : a ≤ b) (bound : b < 256)
    (equal : a = b → Precedes front back) :
    Precedes (UInt8.ofNat a :: front) (UInt8.ofNat b :: back) := by
  rcases Nat.lt_or_eq_of_le order with smaller | rfl
  · exact .here (ofNat_lt_ofNat smaller bound)
  · exact .later (equal rfl)

theorem precedes_utf8EncodeChar {c d : Char} (smaller : c < d) :
    Precedes (String.utf8EncodeChar c) (String.utf8EncodeChar d) := by
  have order : c.val.toNat < d.val.toNat := smaller
  have bound : d.val.toNat < 1114112 := by
    have := d.valid
    rcases this with low | high
    · omega
    · exact high.2
  unfold String.utf8EncodeChar
  dsimp only
  generalize c.val.toNat = v at order
  generalize d.val.toNat = w at order bound
  split_ifs
  -- a character with more bytes is larger, and so is its first byte
  all_goals try first
    | omega
    | exact .here (ofNat_lt_ofNat (by omega) (by omega))
  · exact .digit (by omega) (by omega) fun _ => .here (ofNat_lt_ofNat (by omega) (by omega))
  · exact .digit (by omega) (by omega) fun _ =>
      .digit (by omega) (by omega) fun _ => .here (ofNat_lt_ofNat (by omega) (by omega))
  · exact .digit (by omega) (by omega) fun _ => .digit (by omega) (by omega) fun _ =>
      .digit (by omega) (by omega) fun _ => .here (ofNat_lt_ofNat (by omega) (by omega))

theorem flatMap_utf8EncodeChar_lt {cs ds : List Char} (smaller : cs < ds) :
    cs.flatMap String.utf8EncodeChar < ds.flatMap String.utf8EncodeChar := by
  induction smaller with
  | @nil d ds =>
    obtain ⟨byte, rest, spelled⟩ := List.exists_cons_of_ne_nil
      (String.utf8EncodeChar_ne_nil (c := d))
    rw [List.flatMap_cons, spelled]
    exact List.nil_lt_cons _ _
  | @rel c cs d ds order =>
    rw [List.flatMap_cons, List.flatMap_cons]
    exact (precedes_utf8EncodeChar order).append_lt _ _
  | @cons c cs ds _ ih =>
    rw [List.flatMap_cons, List.flatMap_cons]
    exact List.append_left_lt ih

/-- A smaller text has smaller bytes. -/
theorem bytes_lt_bytes {s t : String} (smaller : s < t) : bytes s < bytes t := by
  rw [bytes_eq, bytes_eq]
  exact flatMap_utf8EncodeChar_lt (String.lt_iff_toList_lt.mp smaller)

end SyntaxExport.Text
