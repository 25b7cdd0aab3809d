import CrossShader.Proofs.Text.Encodable
import CrossShader.Text.Lines

/-!
What the readers of bytes give. No sequence that they accept stands for a surrogate or for a number
out of range, so their texts have an encoding.
-/
namespace CrossShader
open Text

theorem isScalar_iff {c : Nat} :
    isScalar c = true ↔ c < 0xD800 ∨ 0xDFFF < c ∧ c < 0x110000 := by
  simp [isScalar]

namespace Utf8
section
variable {lead b : UInt8} {rest : Bytes} {c : CodePoint} {width : Nat}

theorem low6_lt (b : UInt8) : low6 b < 64 := Nat.mod_lt _ (by decide)

theorem continuation_range (continues : isContinuation b = true) :
    0x80 ≤ b.toNat ∧ b.toNat ≤ 0xBF := by
  simpa [isContinuation, UInt8.le_iff_toNat_le] using continues

/-- After the lead bytes on which it matters the second byte stays clear of surrogates and of
numbers out of range. -/
theorem second_range (fits : fitsSecond lead b = true) :
    (0x80 ≤ b.toNat ∧ b.toNat ≤ 0xBF) ∧ (lead.toNat = 0xED → b.toNat ≤ 0x9F) ∧
      (lead.toNat = 0xF0 → 0x90 ≤ b.toNat) ∧ (lead.toNat = 0xF4 → b.toNat ≤ 0x8F) := by
  have named (n : UInt8) : lead.toNat = n.toNat → lead = n := UInt8.toNat_inj.mp
  simp only [fitsSecond, Bool.and_eq_true, Bool.or_eq_true, bne_iff_ne, decide_eq_true_eq,
    UInt8.le_iff_toNat_le] at fits
  obtain ⟨⟨⟨⟨continues, _⟩, surrogates⟩, four⟩, high⟩ := fits
  refine ⟨continuation_range continues, ?_, ?_, ?_⟩
  · intro eq
    exact surrogates.resolve_left (not_not_intro (named 0xED eq))
  · intro eq
    exact four.resolve_left (not_not_intro (named 0xF0 eq))
  · intro eq
    exact high.resolve_left (not_not_intro (named 0xF4 eq))

theorem isScalar_of_two (reads : pieceOfTwo lead rest = .scalar c width) : isScalar c = true := by
  cases rest with
  | nil => simp [pieceOfTwo] at reads
  | cons b rest =>
    rw [pieceOfTwo] at reads
    split at reads
    case isFalse => simp at reads
    case isTrue =>
      obtain ⟨rfl, _⟩ := Piece.scalar.inj reads
      have small := low6_lt b
      exact isScalar_iff.mpr (.inl (by omega))

theorem isScalar_of_three (first : 0xE0 ≤ lead.toNat) (last : lead.toNat < 0xF0)
    (reads : pieceOfThree lead rest = .scalar c width) : isScalar c = true := by
  obtain _ | ⟨b, _ | ⟨d, rest⟩⟩ := rest
  · simp [pieceOfThree] at reads
  · simp only [pieceOfThree] at reads
    split at reads <;> simp at reads
  · simp only [pieceOfThree] at reads
    split at reads
    case isTrue => simp at reads
    case isFalse fits =>
      split at reads
      case isFalse => simp at reads
      case isTrue =>
        obtain ⟨rfl, _⟩ := Piece.scalar.inj reads
        obtain ⟨range, surrogates, _⟩ := second_range (by simpa using fits)
        have small := low6_lt d
        rw [isScalar_iff]
        simp only [low6] at small ⊢
        omega

theorem isScalar_of_four (first : 0xF0 ≤ lead.toNat) (last : lead.toNat < 0xF5)
    (reads : pieceOfFour lead rest = .scalar c width) : isScalar c = true := by
  obtain _ | ⟨b, _ | ⟨d, _ | ⟨e, rest⟩⟩⟩ := rest
  · simp [pieceOfFour] at reads
  · simp only [pieceOfFour] at reads
    split at reads <;> simp at reads
  · simp only [pieceOfFour] at reads
    split at reads
    · simp at reads
    · split at reads <;> simp at reads
  · simp only [pieceOfFour] at reads
    split at reads
    case isTrue => simp at reads
    case isFalse fits =>
      split at reads
      case isTrue => simp at reads
      case isFalse =>
        split at reads
        case isFalse => simp at reads
        case isTrue =>
          obtain ⟨rfl, _⟩ := Piece.scalar.inj reads
          obtain ⟨range, _, low, high⟩ := second_range (by simpa using fits)
          have small := low6_lt d
          have smaller := low6_lt e
          rw [isScalar_iff]
          simp only [low6] at small smaller ⊢
          omega

theorem isScalar_of_piece (reads : piece lead rest = .scalar c width) : isScalar c = true := by
  simp only [piece, UInt8.lt_iff_toNat_lt] at reads
  split at reads
  · obtain ⟨rfl, _⟩ := Piece.scalar.inj reads
    exact isScalar_iff.mpr (.inl (Nat.lt_trans ‹_› (by decide)))
  · split at reads
    · simp at reads
    · split at reads
      · exact isScalar_of_two reads
      · split at reads
        · exact isScalar_of_three (Nat.le_of_not_lt ‹_›) ‹_› reads
        · split at reads
          · exact isScalar_of_four (Nat.le_of_not_lt ‹_›) ‹_› reads
          · simp at reads

theorem encodable_of_decodeFrom {start : Nat} {bytes : Bytes} {t : Text}
    (reads : decodeFrom start bytes = .ok t) : Encodable t := by
  induction start, bytes using decodeFrom.induct generalizing t with
  | case1 start =>
    rw [decodeFrom] at reads
    obtain rfl := Except.ok.inj reads
    simp [Encodable]
  | case2 start b rest c width found ih =>
    rw [decodeFrom] at reads
    simp only [found] at reads
    cases later : decodeFrom (start + width) (rest.drop (width - 1)) with
    | error e => simp [later, bind, Except.bind] at reads
    | ok u =>
      simp only [later, bind, Except.bind, Except.ok.injEq] at reads
      subst reads
      exact List.forall_mem_cons.mpr ⟨isScalar_of_piece found, ih later⟩
  | case3 start b rest flaw width found =>
    rw [decodeFrom] at reads
    simp [found] at reads

theorem encodable_of_decode {bytes : Bytes} {t : Text} (reads : decode bytes = .ok t) :
    Encodable t := encodable_of_decodeFrom reads

theorem encodable_decodeLossy (bytes : Bytes) : Encodable (decodeLossy bytes) := by
  induction bytes using decodeLossy.induct with
  | case1 => simp [decodeLossy, Encodable]
  | case2 b rest c width found ih =>
    rw [decodeLossy, found]
    exact List.forall_mem_cons.mpr ⟨isScalar_of_piece found, ih⟩
  | case3 b rest flaw width found ih =>
    rw [decodeLossy, found]
    exact List.forall_mem_cons.mpr ⟨rfl, ih⟩
end
end Utf8

theorem encodable_unifyLineEnds {t : Text} (scalars : Encodable t) :
    Encodable (unifyLineEnds t) := by
  induction t using unifyLineEnds.induct with
  | case1 => simp [unifyLineEnds, Encodable]
  | case2 rest ih =>
    obtain ⟨_, _, later⟩ := List.forall_mem_cons.mp scalars |>.imp_right List.forall_mem_cons.mp
    exact List.forall_mem_cons.mpr ⟨rfl, ih later⟩
  | case3 c rest other ih =>
    obtain ⟨first, later⟩ := List.forall_mem_cons.mp scalars
    rw [unifyLineEnds]
    · refine List.forall_mem_cons.mpr ⟨?_, ih later⟩
      split
      · rfl
      · exact first
    · exact other

theorem return_not_mem_unifyLineEnds (t : Text) : 13 ∉ unifyLineEnds t := by
  induction t using unifyLineEnds.induct with
  | case1 => simp [unifyLineEnds]
  | case2 rest ih => simpa [unifyLineEnds] using ih
  | case3 c rest other ih =>
    rw [unifyLineEnds]
    · refine List.not_mem_cons_of_ne_of_not_mem ?_ ih
      split
      case isTrue => decide
      case isFalse kept => exact Ne.symm kept
    · exact other
end CrossShader
