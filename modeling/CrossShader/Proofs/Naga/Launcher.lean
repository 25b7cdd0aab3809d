import CrossShader.Naga.Launcher
import Mathlib.Algebra.Group.Nat.Defs
import Mathlib.Data.List.TakeWhile

/-!
Which commands can be handed over: those whose words have no null character and no surrogate without
a byte. Which waits can be asked for: those whose length in milliseconds is not above the longest.
What else a launcher finds is an ordinary fault, and none of a conversion.
-/
namespace CrossShader.Naga
open Text

def Launcher.Says (l : Launcher) (t : Text) : Prop :=
  match l with
  | .standIn => True
  | .system _ => ∀ c ∈ t, isNameable c = true ∧ c ≠ 0

def Launcher.Awaits (l : Launcher) (timeout : Binary64) : Prop :=
  match l, timeout with
  | .standIn, _ => True
  | .system _, .nan => False
  | .system _, .infinite negative => negative = true
  | .system longestWait, .finite negative mantissa exponent => negative = true ∨
    1000 * mantissa * 2 ^ exponent.toNat ≤ longestWait * 2 ^ (-exponent).toNat

/-- Every launcher can hand the text over. -/
def IsPlain (t : Text) : Prop := ∀ c ∈ t, 0 < c ∧ c < 128

instance (t : Text) : Decidable (IsPlain t) := inferInstanceAs (Decidable (∀ c ∈ t, _))

theorem isPlain_append {s t : Text} : IsPlain (s ++ t) ↔ IsPlain s ∧ IsPlain t :=
  List.forall_mem_append

theorem wordFault?_eq_none_iff {word : Text} :
    wordFault? word = none ↔ ∀ c ∈ word, isNameable c = true ∧ c ≠ 0 := by
  rw [wordFault?, wordError?]
  cases rest : word.dropWhile isNameable with
  | nil =>
    have each : ∀ c ∈ word, isNameable c = true := List.dropWhile_eq_nil_iff.mp rest
    constructor
    · intro silent c member
      refine ⟨each c member, ?_⟩
      rintro rfl
      simp [member] at silent
    · intro fits
      have whole : 0 ∉ word := fun member => (fits 0 member).2 rfl
      simp [whole]
  | cons c more =>
    constructor
    · intro silent
      simp at silent
    · intro fits
      rw [List.dropWhile_eq_nil_iff.mpr fun c member => (fits c member).1] at rest
      cases rest

theorem milliseconds_le_iff {mantissa n : Nat} {exponent : Int} :
    milliseconds mantissa exponent ≤ n ↔
      1000 * mantissa * 2 ^ exponent.toNat ≤ n * 2 ^ (-exponent).toNat := by
  rw [milliseconds]
  -- The exponent goes to the numerator or to the denominator, and only a part is rounded up.
  cases exponent with
  | ofNat k =>
    have whole : Binary64.descale (-Int.ofNat k) (1000 * mantissa) 1 =
        (1000 * mantissa * 2 ^ k, 1) := by
      cases k with
      | zero => simp [Binary64.descale]
      | succ k => exact congrArg (·, 1) (Nat.shiftLeft_eq _ _)
    rw [whole]
    simp
  | negSucc k =>
    have part : Binary64.descale (-Int.negSucc k) (1000 * mantissa) 1 =
        (1000 * mantissa, 2 ^ (k + 1)) :=
      congrArg (1000 * mantissa, ·) (Nat.one_shiftLeft _)
    have positive : 0 < 2 ^ (k + 1) := Nat.two_pow_pos _
    have above : (Int.negSucc k).toNat = 0 := rfl
    have below : (-Int.negSucc k).toNat = k + 1 := rfl
    rw [part, above, below, Nat.div_le_iff_le_mul_add_pred positive, Nat.mul_comm n]
    dsimp only
    omega

namespace Launcher
variable {l : Launcher} {words : List Text}

theorem commandFault?_eq_none_iff :
    l.commandFault? words = none ↔ ∀ word ∈ words, l.Says word := by
  cases l with
  | standIn => simp [commandFault?, Says]
  | system longestWait =>
    simp only [commandFault?, List.findSome?_eq_none_iff, wordFault?_eq_none_iff, Says]

theorem says_append {s t : Text} : l.Says (s ++ t) ↔ l.Says s ∧ l.Says t := by
  cases l with
  | standIn => simp [Says]
  | system longestWait => exact List.forall_mem_append

theorem says_of_isPlain (l : Launcher) {t : Text} (plain : IsPlain t) : l.Says t := by
  cases l with
  | standIn => trivial
  | system longestWait =>
    intro c member
    obtain ⟨positive, low⟩ := plain c member
    refine ⟨?_, Nat.pos_iff_ne_zero.mp positive⟩
    have below : c < 0xD800 := Nat.lt_trans low (by decide)
    simp [isNameable, isScalar, below]

theorem commandFault?_eq_some {cause : Cause} (fault : l.commandFault? words = some cause) :
    (∃ e, cause = .encoding e) ∨ cause = .value (text "embedded null byte") := by
  cases l with
  | standIn => simp [commandFault?] at fault
  | system longestWait =>
    obtain ⟨word, _, found⟩ := List.exists_of_findSome?_eq_some fault
    rw [wordFault?] at found
    split at found
    case h_1 e _ => exact .inl ⟨e, (Option.some.inj found).symm⟩
    case h_2 =>
      split at found
      · exact .inr (Option.some.inj found).symm
      · simp at found

theorem timeoutFault?_eq_none_iff {timeout : Binary64} :
    l.timeoutFault? timeout = none ↔ l.Awaits timeout := by
  cases l with
  | standIn => simp [timeoutFault?, Awaits]
  | system longestWait =>
    rw [timeoutFault?]
    cases timeout with
    | nan => simp [waitFault?, Awaits]
    | infinite negative => cases negative <;> simp [waitFault?, Awaits]
    | finite negative mantissa exponent =>
      cases negative <;> simp [waitFault?, Awaits, ← milliseconds_le_iff]

theorem timeoutFault?_eq_some {timeout : Binary64} {cause : Cause}
    (fault : l.timeoutFault? timeout = some cause) :
    (∃ m, cause = .value m) ∨ ∃ m, cause = .overflow m := by
  cases l with
  | standIn => simp [timeoutFault?] at fault
  | system longestWait =>
    rw [timeoutFault?, waitFault?.eq_def] at fault
    split at fault
    · exact .inl ⟨_, (Option.some.inj fault).symm⟩
    · split at fault
      · simp at fault
      · exact .inr ⟨_, (Option.some.inj fault).symm⟩
    · split at fault
      · exact .inr ⟨_, (Option.some.inj fault).symm⟩
      · simp at fault

end Launcher
end CrossShader.Naga
