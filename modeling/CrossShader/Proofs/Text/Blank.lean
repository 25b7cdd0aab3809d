import CrossShader.Text.Lines
import CrossShader.Text.Word
import Mathlib.Data.List.TakeWhile

/-!
Texts between blanks. Every text is its indentation, its stripped text and trailing blanks, and
blanks at either end make no difference to the stripped text, which has none there. No blank is a
word character.
-/
namespace CrossShader

theorem CharSet.in_range_of_has {s : CharSet} {c : CodePoint} (member : s.has c = true) :
    ∃ r ∈ s, r.1 ≤ c ∧ c ≤ r.2 := by
  induction s with
  | nil => simp [has] at member
  | cons r rest ih =>
    obtain ⟨lo, hi⟩ := r
    rw [has] at member
    by_cases below : c < lo
    · simp [below] at member
    · by_cases inside : c ≤ hi
      · exact ⟨(lo, hi), List.mem_cons_self, Nat.le_of_not_lt below, inside⟩
      · simp only [below, inside, ↓reduceIte] at member
        obtain ⟨r, mem, bounds⟩ := ih member
        exact ⟨r, List.mem_cons_of_mem _ mem, bounds⟩

namespace Text

def Blank (t : Text) : Prop := ∀ c ∈ t, isBlank c = true

instance (t : Text) : Decidable (Blank t) := inferInstanceAs (Decidable (∀ c ∈ t, _))

theorem blank_indent (t : Text) : Blank (indent t) := by
  intro c member
  exact List.mem_takeWhile_imp member

theorem stripRight_append_blank (t : Text) : ∃ tail, Blank tail ∧ stripRight t ++ tail = t := by
  refine ⟨(t.reverse.takeWhile isBlank).reverse, ?_, ?_⟩
  · intro c member
    exact List.mem_takeWhile_imp (List.mem_reverse.mp member)
  · rw [stripRight, ← List.reverse_append, List.takeWhile_append_dropWhile, List.reverse_reverse]

theorem indent_append_strip (t : Text) : ∃ tail, Blank tail ∧ indent t ++ strip t ++ tail = t := by
  obtain ⟨tail, blank, eq⟩ := stripRight_append_blank (stripLeft t)
  refine ⟨tail, blank, ?_⟩
  rw [strip, List.append_assoc, eq, indent_append_stripLeft]

theorem strip_isInfix (t : Text) : strip t <:+: t := by
  obtain ⟨tail, _, eq⟩ := indent_append_strip t
  exact ⟨indent t, tail, eq⟩

theorem strip_blank_append {a : Text} (blank : Blank a) (t : Text) : strip (a ++ t) = strip t := by
  rw [strip, stripLeft, List.dropWhile_append_of_pos blank]
  rfl

theorem strip_eq_nil_iff {t : Text} : strip t = [] ↔ Blank t := by
  constructor
  · intro empty
    obtain ⟨tail, blank, eq⟩ := indent_append_strip t
    rw [empty, List.append_nil] at eq
    rw [← eq]
    exact List.forall_mem_append.mpr ⟨blank_indent t, blank⟩
  · intro blank
    have cut := strip_blank_append blank []
    rwa [List.append_nil] at cut

/-- No blank at either end. -/
structure IsTight (t : Text) : Prop where
  first : ∀ c ∈ t.head?, isBlank c = false
  last : ∀ c ∈ t.getLast?, isBlank c = false

theorem dropWhile_isBlank_of_first {t : Text} (first : ∀ c ∈ t.head?, isBlank c = false) :
    t.dropWhile isBlank = t := by
  cases t with
  | nil => rfl
  | cons c rest => simp [first c rfl]

theorem strip_of_isTight {t : Text} (tight : IsTight t) : strip t = t := by
  have turned : t.reverse.dropWhile isBlank = t.reverse := by
    apply dropWhile_isBlank_of_first
    rw [List.head?_reverse]
    exact tight.last
  rw [strip, stripLeft, dropWhile_isBlank_of_first tight.first, stripRight, turned,
    List.reverse_reverse]

theorem isTight_strip (t : Text) : IsTight (strip t) := by
  constructor
  · intro c first
    have edge := List.head?_dropWhile_not isBlank t
    obtain ⟨tail, _, eq⟩ := stripRight_append_blank (stripLeft t)
    have begins : (stripLeft t).head? = some c := by
      rw [← eq, List.head?_append, Option.or_eq_some_iff]
      exact Or.inl first
    rw [stripLeft] at begins
    rw [begins] at edge
    exact edge
  · intro c last
    have edge := List.head?_dropWhile_not isBlank (stripLeft t).reverse
    rw [strip, stripRight, List.getLast?_reverse, Option.mem_def] at last
    rw [last] at edge
    exact edge

theorem strip_strip (t : Text) : strip (strip t) = strip t := strip_of_isTight (isTight_strip t)

theorem strip_append_blank (t : Text) {b : Text} (blank : Blank b) : strip (t ++ b) = strip t := by
  have turned : ∀ c ∈ b.reverse, isBlank c = true := by
    intro c member
    exact blank c (List.mem_reverse.mp member)
  rw [strip, stripLeft, List.dropWhile_append]
  split
  case isTrue empty =>
    have nothing : b.dropWhile isBlank = [] := List.dropWhile_eq_nil_iff.mpr blank
    rw [nothing, strip, stripLeft, List.isEmpty_iff.mp empty]
  case isFalse =>
    rw [stripRight, List.reverse_append, List.dropWhile_append_of_pos turned]
    rfl

theorem indent_append {t : Text} (solid : strip t ≠ []) (b : Text) :
    indent (t ++ b) = indent t := by
  have short : (t.takeWhile isBlank).length ≠ t.length := by
    intro all
    have blank := blank_indent t
    rw [indent, (List.takeWhile_prefix isBlank).eq_of_length all] at blank
    exact solid (strip_eq_nil_iff.mpr blank)
  rw [indent, List.takeWhile_append, if_neg short]
  rfl

theorem blanks_hold_no_word_char :
    ∀ r ∈ blanks, ∀ k < r.2 + 1 - r.1, isWordChar (r.1 + k) = false := by
  decide +kernel

theorem no_word_char_of_blank {c : CodePoint} (blank : isBlank c = true) :
    isWordChar c = false := by
  obtain ⟨r, mem, low, high⟩ := CharSet.in_range_of_has blank
  have offset : c - r.1 < r.2 + 1 - r.1 := Nat.sub_lt_sub_right low (Nat.lt_succ_of_le high)
  have apart := blanks_hold_no_word_char r mem (c - r.1) offset
  rwa [Nat.add_sub_cancel' low] at apart

end Text
end CrossShader
