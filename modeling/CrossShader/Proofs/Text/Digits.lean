import CrossShader.Text.Basic
import Mathlib.Data.List.Basic

/-!
Numbers in decimal. A number can be read back from its digits, and one with a sign is written in
digits and a hyphen alone.
-/
namespace CrossShader.Text

theorem ofNat_injective {m n : Nat} (same : ofNat m = ofNat n) : m = n := by
  have digits : Nat.toDigits 10 m = Nat.toDigits 10 n :=
    List.map_injective_iff.mpr (fun _ _ => Char.toNat_inj.mp) same
  have readBack := congrArg (fun ds => Nat.ofDigitChars 10 ds 0) digits
  simpa only [Nat.ofDigitChars_ten_toDigits] using readBack

theorem digit_of_mem_ofNat {n : Nat} {c : CodePoint} (member : c ∈ ofNat n) :
    48 ≤ c ∧ c ≤ 57 := by
  obtain ⟨char, inside, rfl⟩ := List.mem_map.mp member
  have digit := Nat.isDigit_of_mem_toDigits (by decide) (by decide) inside
  simp only [Char.isDigit, Bool.and_eq_true, decide_eq_true_eq, ge_iff_le,
    UInt32.le_iff_toNat_le] at digit
  exact digit

theorem ofNat_ne_nil (n : Nat) : ofNat n ≠ [] := by
  intro empty
  exact Nat.toDigits_ne_nil (List.map_eq_nil_iff.mp empty)

theorem ofInt_ne_nil (n : Int) : ofInt n ≠ [] := by
  cases n with
  | ofNat n => exact ofNat_ne_nil n
  | negSucc n => exact List.append_ne_nil_of_right_ne_nil _ (ofNat_ne_nil (n + 1))

theorem plain_of_mem_ofInt {n : Int} {c : CodePoint} (member : c ∈ ofInt n) :
    45 ≤ c ∧ c ≤ 57 := by
  have digits {k : Nat} (inside : c ∈ ofNat k) : 45 ≤ c ∧ c ≤ 57 := by
    obtain ⟨low, high⟩ := digit_of_mem_ofNat inside
    exact ⟨Nat.le_trans (by decide) low, high⟩
  cases n with
  | ofNat n => exact digits member
  | negSucc n =>
    rcases List.mem_append.mp member with hyphen | inside
    · rw [List.mem_singleton.mp hyphen]
      decide
    · exact digits inside

end CrossShader.Text
