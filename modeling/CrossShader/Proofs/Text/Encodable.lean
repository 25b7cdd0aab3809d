import CrossShader.Proofs.Text.Blank
import CrossShader.Proofs.Text.Lines
import CrossShader.Text.Casing
import CrossShader.Text.Utf8
import Mathlib.Data.List.TakeWhile

/-!
Only the texts of scalar values have an encoding. They stay such when they are put together, cut,
stripped or brought to lower case.
-/
namespace CrossShader
open Text

def Encodable (t : Text) : Prop := ∀ c ∈ t, isScalar c = true

instance (t : Text) : Decidable (Encodable t) := inferInstanceAs (Decidable (∀ c ∈ t, _))

namespace Utf8

theorem encode_of_encodable {t : Text} (scalars : Encodable t) :
    encode t = .ok (t.flatMap encodeChar) := by
  have nothing : t.dropWhile isScalar = [] := List.dropWhile_eq_nil_iff.mpr scalars
  rw [encode, nothing]

theorem encode_of_not_encodable {t : Text} (flawed : ¬ Encodable t) :
    ∃ e, encode t = .error e := by
  rw [encode]
  cases rest : t.dropWhile isScalar with
  | nil => exact absurd (List.dropWhile_eq_nil_iff.mp rest) flawed
  | cons c more => exact ⟨_, rfl⟩

end Utf8

theorem encodable_text (s : String) : Encodable (text s) := by
  intro c member
  obtain ⟨char, _, rfl⟩ := List.mem_map.mp member
  have valid : char.toNat < 0xD800 ∨ 0xDFFF < char.toNat ∧ char.toNat < 0x110000 := char.valid
  simpa [isScalar] using valid

theorem encodable_append {a b : Text} : Encodable (a ++ b) ↔ Encodable a ∧ Encodable b :=
  List.forall_mem_append

theorem encodable_all {t : Text} : t.all isScalar = true ↔ Encodable t := List.all_eq_true

theorem isScalar_of_plain (c : CodePoint) (_ : 32 ≤ c) (high : c < 127) : isScalar c = true := by
  have low : c < 0xD800 := Nat.lt_trans high (by decide)
  simp [isScalar, low]

theorem encodable_unlines {ls : List Text} (each : ∀ l ∈ ls, Encodable l) :
    Encodable (unlines ls) := by
  intro c member
  rcases mem_unlines member with rfl | ⟨l, listed, inLine⟩
  · rfl
  · exact each l listed c inLine

theorem encodable_lines {t : Text} (scalars : Encodable t) : ∀ l ∈ lines t, Encodable l := by
  intro l listed c inLine
  exact scalars c ((infix_of_mem_lines listed).subset inLine)

theorem encodable_strip {t : Text} (scalars : Encodable t) : Encodable (strip t) :=
  fun c member => scalars c ((strip_isInfix t).mem member)

theorem caseSegments_are_scalar :
    ∀ s ∈ caseSegments, s.target + (s.last - s.first) < 0xD800 ∨
      0xDFFF < s.target ∧ s.target + (s.last - s.first) < 0x110000 := by
  decide +kernel

theorem isScalar_lowerChar {c : CodePoint} (scalar : isScalar c = true) :
    isScalar (lowerChar c) = true := by
  rw [lowerChar]
  cases found : caseSegments.find? (·.covers c) with
  | none => exact scalar
  | some s =>
    have bounds := caseSegments_are_scalar s (List.mem_of_find?_eq_some found)
    have covered : s.first ≤ c ∧ c ≤ s.last := by
      have covers := List.find?_some found
      simp only [CaseSegment.covers, Bool.and_eq_true, decide_eq_true_eq] at covers
      exact covers.1
    have below : s.target + (c - s.first) ≤ s.target + (s.last - s.first) :=
      Nat.add_le_add_left (Nat.sub_le_sub_right covered.2 _) _
    have inside : s.target + (c - s.first) < 0xD800 ∨
        0xDFFF < s.target + (c - s.first) ∧ s.target + (c - s.first) < 0x110000 := by
      rcases bounds with low | ⟨start, high⟩
      · exact .inl (Nat.lt_of_le_of_lt below low)
      · exact .inr ⟨Nat.lt_of_lt_of_le start (Nat.le_add_right _ _), Nat.lt_of_le_of_lt below high⟩
    simpa [isScalar] using inside

theorem encodable_lowerFrom (before : Text) {t : Text} (scalars : Encodable t) :
    Encodable (lowerFrom before t) := by
  induction t generalizing before with
  | nil => simp [lowerFrom, Encodable]
  | cons c rest ih =>
    have first : isScalar c = true := scalars c List.mem_cons_self
    have later := ih (c :: before) fun d member => scalars d (List.mem_cons_of_mem c member)
    refine encodable_append.mpr ⟨?_, later⟩
    split
    case isTrue =>
      intro d member
      rw [List.mem_singleton.mp member]
      split <;> rfl
    case isFalse =>
      split
      case isTrue => decide
      case isFalse =>
        intro d member
        rw [List.mem_singleton.mp member]
        exact isScalar_lowerChar first

theorem encodable_lower {t : Text} (scalars : Encodable t) : Encodable (lower t) :=
  encodable_lowerFrom [] scalars

end CrossShader
