import CrossShader.Proofs.Text.Blank
import CrossShader.Text.Casing
import Mathlib.Data.List.Basic

/-!
What lowercasing leaves behind. No character that it writes has a lowercase form of its own, so a
second time it changes nothing, whatever stands around a sigma. It neither makes a blank of another
character nor leaves one out, so a text without blanks at its ends has none there afterwards.
-/
namespace CrossShader.Text

/-- The second segment may map what the first writes. Where both go in steps of two, or the first
has one character only, they can overlap and still miss each other by their parity. -/
def CaseSegment.feeds (s t : CaseSegment) : Bool :=
  t.first ≤ s.target + (s.last - s.first) && s.target ≤ t.last &&
    !((s.stride == 2 || s.first == s.last) && t.stride == 2 && s.target % 2 != t.first % 2)

theorem no_segment_feeds_another {s t : CaseSegment} (first : s ∈ caseSegments)
    (second : t ∈ caseSegments) : s.feeds t = false := by
  -- Most pairs lie apart, which two comparisons tell faster than `feeds` does.
  have checked : (caseSegments.all fun s => caseSegments.all fun t =>
      Nat.blt (s.target + (s.last - s.first)) t.first ||
        (Nat.blt t.last s.target || !s.feeds t)) = true := by
    decide +kernel
  have apart := List.all_eq_true.mp (List.all_eq_true.mp checked s first) t second
  rw [Bool.or_eq_true, Bool.or_eq_true, Nat.blt_eq, Nat.blt_eq] at apart
  rcases apart with above | below | silent
  · simp [CaseSegment.feeds, Nat.not_le.mpr above]
  · simp [CaseSegment.feeds, Nat.not_le.mpr below]
  · simpa using silent

/-- The segments write neither blanks nor the one character that is lowercased to two. -/
theorem segments_write_neither_blank_nor_dotted :
    ∀ s ∈ caseSegments, ∀ r ∈ (dottedCapitalI, dottedCapitalI) :: blanks,
      s.target + (s.last - s.first) < r.1 ∨ r.2 < s.target := by
  decide +kernel

/-- Lowercasing leaves the character as it is, wherever it stands. -/
def IsLow (c : CodePoint) : Prop := c ≠ dottedCapitalI ∧ lowerChar c = c

instance (c : CodePoint) : Decidable (IsLow c) := inferInstanceAs (Decidable (_ ∧ _))

theorem IsLow.ne_capitalSigma {c : CodePoint} (low : IsLow c) : c ≠ capitalSigma := by
  rintro rfl
  exact absurd low.2 (by decide)

theorem written_outside {first last target lo hi c : Nat} (inside : first ≤ c ∧ c ≤ last)
    (outside : target + (last - first) < lo ∨ hi < target) :
    ¬ (lo ≤ target + (c - first) ∧ target + (c - first) ≤ hi) := by
  omega

theorem odd_of_parity {first last stride target start c : Nat} (inside : first ≤ c ∧ c ≤ last)
    (step : (c - first) % stride = 0) (even : stride = 2 ∨ first = last)
    (parity : target % 2 ≠ start % 2) (reaches : start ≤ target + (c - first)) :
    (target + (c - first) - start) % 2 ≠ 0 := by
  rcases even with rfl | rfl <;> omega

theorem covers_iff {s : CaseSegment} {c : CodePoint} :
    s.covers c = true ↔ (s.first ≤ c ∧ c ≤ s.last) ∧ (c - s.first) % s.stride = 0 := by
  simp only [CaseSegment.covers, Bool.and_eq_true, decide_eq_true_eq, beq_iff_eq]

theorem not_covers_of_not_feeds {s t : CaseSegment} (apart : s.feeds t = false) {c : CodePoint}
    (covered : s.covers c = true) : ¬ t.covers (s.target + (c - s.first)) = true := by
  rw [covers_iff] at covered ⊢
  obtain ⟨inside, step⟩ := covered
  rintro ⟨reached, step'⟩
  simp only [CaseSegment.feeds, Bool.and_eq_false_iff, Bool.not_eq_false', Bool.and_eq_true,
    Bool.or_eq_true, decide_eq_false_iff_not, Nat.not_le, beq_iff_eq, bne_iff_ne] at apart
  rcases apart with beyond | ⟨⟨even, stride⟩, parity⟩
  · exact written_outside inside beyond reached
  · rw [stride] at step'
    exact odd_of_parity inside step even parity reached.1 step'

theorem lowerChar_cases (c : CodePoint) :
    lowerChar c = c ∨ ∃ s ∈ caseSegments, s.covers c = true ∧
      lowerChar c = s.target + (c - s.first) := by
  cases found : caseSegments.find? (·.covers c) with
  | none => exact .inl (by rw [lowerChar, found])
  | some s =>
    exact .inr ⟨s, List.mem_of_find?_eq_some found,
      List.find?_some (p := fun s : CaseSegment => s.covers c) found, by rw [lowerChar, found]⟩

theorem isLow_lowerChar {c : CodePoint} (single : c ≠ dottedCapitalI) : IsLow (lowerChar c) := by
  rcases lowerChar_cases c with same | ⟨s, listed, covered, written⟩
  · rw [same]
    exact ⟨single, same⟩
  · constructor
    · intro dotted
      have outside := segments_write_neither_blank_nor_dotted s listed _ List.mem_cons_self
      refine written_outside (covers_iff.mp covered).1 outside ?_
      rw [← written, dotted]
      exact ⟨Nat.le_refl _, Nat.le_refl _⟩
    · have free : caseSegments.find? (·.covers (lowerChar c)) = none := by
        rw [List.find?_eq_none]
        intro t listed'
        rw [written]
        exact not_covers_of_not_feeds (no_segment_feeds_another listed listed') covered
      rw [lowerChar, free]

theorem not_blank_lowerChar {c : CodePoint} (solid : isBlank c = false) :
    isBlank (lowerChar c) = false := by
  rcases lowerChar_cases c with same | ⟨s, listed, covered, written⟩
  · rwa [same]
  · rw [Bool.eq_false_iff]
    intro blank
    obtain ⟨r, ofBlanks, bounds⟩ := CharSet.in_range_of_has blank
    have outside := segments_write_neither_blank_nor_dotted s listed r
      (List.mem_cons_of_mem _ ofBlanks)
    rw [written] at bounds
    exact written_outside (covers_iff.mp covered).1 outside bounds

/-- One character becomes one or two that stay, and blank only if it was. -/
theorem lowerFrom_cons (before : Text) (c : CodePoint) (rest : Text) :
    ∃ piece, lowerFrom before (c :: rest) = piece ++ lowerFrom (c :: before) rest ∧
      piece ≠ [] ∧ ∀ d ∈ piece, IsLow d ∧ (isBlank c = false → isBlank d = false) := by
  refine ⟨_, rfl, ?_⟩
  split
  case isTrue =>
    have sigmas : ∀ d ∈ [finalSigma, smallSigma], IsLow d ∧ isBlank d = false := by
      decide
    refine ⟨List.cons_ne_nil _ _, fun d listed => ?_⟩
    have among : d ∈ [finalSigma, smallSigma] := by
      rw [List.mem_singleton.mp listed]
      split <;> simp
    exact ⟨(sigmas d among).1, fun _ => (sigmas d among).2⟩
  case isFalse =>
    split
    case isTrue =>
      have letters : ∀ d ∈ [105, combiningDotAbove], IsLow d ∧ isBlank d = false := by
        decide
      exact ⟨List.cons_ne_nil _ _,
        fun d listed => ⟨(letters d listed).1, fun _ => (letters d listed).2⟩⟩
    case isFalse single =>
      refine ⟨List.cons_ne_nil _ _, fun d listed => ?_⟩
      rw [List.mem_singleton.mp listed]
      exact ⟨isLow_lowerChar single, not_blank_lowerChar⟩

theorem isLow_lowerFrom (before t : Text) : ∀ c ∈ lowerFrom before t, IsLow c := by
  induction t generalizing before with
  | nil => simp [lowerFrom]
  | cons c rest ih =>
    obtain ⟨piece, eq, _, stays⟩ := lowerFrom_cons before c rest
    rw [eq]
    exact List.forall_mem_append.mpr ⟨fun d listed => (stays d listed).1, ih (c :: before)⟩

theorem lowerFrom_of_isLow (before : Text) {t : Text} (low : ∀ c ∈ t, IsLow c) :
    lowerFrom before t = t := by
  induction t generalizing before with
  | nil => rfl
  | cons c rest ih =>
    have first := low c List.mem_cons_self
    rw [lowerFrom, if_neg first.ne_capitalSigma, if_neg first.1, first.2,
      ih (c :: before) fun d listed => low d (List.mem_cons_of_mem c listed)]
    rfl

theorem lower_lower (t : Text) : lower (lower t) = lower t :=
  lowerFrom_of_isLow [] (isLow_lowerFrom [] t)

theorem first_lowerFrom (before : Text) {t : Text} (first : ∀ c ∈ t.head?, isBlank c = false) :
    ∀ c ∈ (lowerFrom before t).head?, isBlank c = false := by
  cases t with
  | nil => simp [lowerFrom]
  | cons c rest =>
    obtain ⟨piece, eq, nonempty, stays⟩ := lowerFrom_cons before c rest
    rw [eq, List.head?_append_of_ne_nil _ nonempty]
    intro d begins
    exact (stays d (List.mem_of_mem_head? begins)).2 (first c rfl)

theorem last_lowerFrom (before : Text) {t : Text} (last : ∀ c ∈ t.getLast?, isBlank c = false) :
    ∀ c ∈ (lowerFrom before t).getLast?, isBlank c = false := by
  induction t generalizing before with
  | nil => simp [lowerFrom]
  | cons c rest ih =>
    obtain ⟨piece, eq, nonempty, stays⟩ := lowerFrom_cons before c rest
    rw [eq]
    cases rest with
    | nil =>
      rw [lowerFrom, List.append_nil]
      intro d ends
      exact (stays d (List.mem_of_mem_getLast? ends)).2 (last c rfl)
    | cons next more =>
      obtain ⟨later, eq', nonempty', _⟩ := lowerFrom_cons (c :: before) next more
      have follows : lowerFrom (c :: before) (next :: more) ≠ [] := by simp [eq', nonempty']
      rw [List.getLast?_append_of_ne_nil _ follows]
      exact ih (c :: before) fun d ends => last d (by rwa [List.getLast?_cons_cons])

theorem isTight_lower {t : Text} (tight : IsTight t) : IsTight (lower t) :=
  ⟨first_lowerFrom [] tight.first, last_lowerFrom [] tight.last⟩

end CrossShader.Text
