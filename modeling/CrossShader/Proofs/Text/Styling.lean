import CrossShader.Proofs.Text.Encodable
import CrossShader.Text.Styling

/-!
What is left of a text without its control sequences. A text keeps all it has exactly if it holds no
such sequence, and since none reaches over the end of a line, the lines of a text are looked at one
by one.
-/
namespace CrossShader.Text

/-- An escape character and a bracket, parameters, and a letter. -/
def IsControlSequence (t : Text) : Prop :=
  ∃ parameters letter, t = escapeCharacter :: 91 :: (parameters ++ [letter]) ∧
    (∀ c ∈ parameters, isParameter c = true) ∧ isLetter letter = true

def BeginsStyled (t : Text) : Prop := ∃ control after, IsControlSequence control ∧
  t = control ++ after

def Styled (t : Text) : Prop := ∃ before control after, IsControlSequence control ∧
  t = before ++ control ++ after

theorem not_isParameter_of_isLetter {c : Nat} (letter : isLetter c = true) :
    isParameter c = false := by
  have range : (65 ≤ c ∧ c ≤ 90) ∨ (97 ≤ c ∧ c ≤ 122) := by simpa [isLetter] using letter
  have outside : ¬ ((48 ≤ c ∧ c ≤ 57) ∨ c = 59 ∨ c = 63) := by omega
  rw [Bool.eq_false_iff]
  intro parameter
  exact outside (by simpa [isParameter, or_assoc] using parameter)

theorem not_beginsStyled_of_ne {c : CodePoint} (plain : c ≠ escapeCharacter) (rest : Text) :
    ¬ BeginsStyled (c :: rest) := by
  rintro ⟨_, after, ⟨parameters, letter, rfl, _⟩, same⟩
  exact plain (List.cons.inj same).1

theorem newline_not_mem_control {control : Text} (isControl : IsControlSequence control) :
    newline ∉ control := by
  obtain ⟨parameters, letter, rfl, all, isLetter⟩ := isControl
  intro listed
  simp only [List.mem_cons, List.mem_append, List.not_mem_nil, or_false] at listed
  rcases listed with eq | eq | member | rfl
  · exact absurd eq (by decide)
  · exact absurd eq (by decide)
  · exact absurd (all newline member) (by decide)
  · exact absurd isLetter (by decide)

theorem controlLength?_eq_some {t : Text} {n : Nat} :
    controlLength? t = some n ↔ ∃ parameters letter after,
      t = 91 :: (parameters ++ letter :: after) ∧ (∀ c ∈ parameters, isParameter c = true) ∧
        isLetter letter = true ∧ n = parameters.length + 2 := by
  constructor
  · intro found
    rw [controlLength?.eq_def] at found
    split at found
    case h_1 rest =>
      dsimp only at found
      split at found
      case h_1 letter after tail =>
        split at found
        case isTrue isLetter =>
          refine ⟨rest.takeWhile isParameter, letter, after, ?_,
            fun c member => List.mem_takeWhile_imp member, isLetter,
            (Option.some.inj found).symm⟩
          rw [← tail, List.cons.injEq]
          exact ⟨rfl, (List.prefix_iff_eq_append.mp (List.takeWhile_prefix isParameter)).symm⟩
        case isFalse => simp at found
      case h_2 => simp at found
    case h_2 => simp at found
  · rintro ⟨parameters, letter, after, rfl, all, isLetter, rfl⟩
    have stops : (parameters ++ letter :: after).takeWhile isParameter = parameters := by
      rw [List.takeWhile_append_of_pos all,
        List.takeWhile_cons_of_neg (by simp [not_isParameter_of_isLetter isLetter]),
        List.append_nil]
    simp only [controlLength?, stops, List.drop_left, isLetter, if_true]

theorem dropStyles_nil : dropStyles [] = [] := by rw [dropStyles]

theorem dropStyles_control {control : Text} (isControl : IsControlSequence control)
    (after : Text) : dropStyles (control ++ after) = dropStyles after := by
  obtain ⟨parameters, letter, rfl, all, isLetter⟩ := isControl
  have length : controlLength? (91 :: (parameters ++ letter :: after)) =
      some (parameters.length + 2) :=
    controlLength?_eq_some.mpr ⟨parameters, letter, after, rfl, all, isLetter, rfl⟩
  have dropped : (91 :: (parameters ++ letter :: after)).drop (parameters.length + 2) = after := by
    simp
  rw [List.cons_append, List.cons_append, List.append_assoc, List.singleton_append, dropStyles,
    if_pos rfl, length]
  dsimp only
  rw [dropped]

theorem dropStyles_char {c : CodePoint} {rest : Text} (plain : ¬ BeginsStyled (c :: rest)) :
    dropStyles (c :: rest) = c :: dropStyles rest := by
  have nothing : (if c = escapeCharacter then controlLength? rest else none) = none := by
    split
    case isTrue escape =>
      rw [Option.eq_none_iff_forall_ne_some]
      intro n found
      obtain ⟨parameters, letter, after, rfl, all, isLetter, _⟩ :=
        controlLength?_eq_some.mp found
      exact plain ⟨_, after, ⟨parameters, letter, rfl, all, isLetter⟩, by simp [escape]⟩
    case isFalse => rfl
  rw [dropStyles, nothing]

/-- A text is made of control sequences and of characters at which none begins. -/
theorem styled_induction {motive : Text → Prop} (nil : motive [])
    (control : ∀ control after, IsControlSequence control → motive after →
      motive (control ++ after))
    (char : ∀ c rest, ¬ BeginsStyled (c :: rest) → motive rest → motive (c :: rest)) (t : Text) :
    motive t := by
  induction size : t.length using Nat.strongRecOn generalizing t with
  | ind n ih =>
    by_cases begins : BeginsStyled t
    · obtain ⟨sequence, after, isControl, rfl⟩ := begins
      have shorter : after.length < n := by
        obtain ⟨parameters, letter, rfl, _⟩ := isControl
        simp only [List.length_append, List.length_cons] at size
        omega
      exact control sequence after isControl (ih _ shorter after rfl)
    · cases t with
      | nil => exact nil
      | cons c rest =>
        have shorter : rest.length < n := by
          rw [← size]
          exact Nat.lt_succ_self _
        exact char c rest begins (ih _ shorter rest rfl)

theorem dropStyles_sublist (t : Text) : (dropStyles t).Sublist t := by
  induction t using styled_induction with
  | nil => simp [dropStyles_nil]
  | control control after isControl ih =>
    rw [dropStyles_control isControl]
    exact ih.trans (List.sublist_append_right control after)
  | char c rest plain ih =>
    rw [dropStyles_char plain]
    exact ih.cons_cons c

theorem encodable_dropStyles {t : Text} (scalars : Encodable t) : Encodable (dropStyles t) :=
  fun c member => scalars c ((dropStyles_sublist t).subset member)

theorem styled_cons {c : CodePoint} {rest : Text} :
    Styled (c :: rest) ↔ BeginsStyled (c :: rest) ∨ Styled rest := by
  constructor
  · rintro ⟨before, control, after, isControl, split⟩
    cases before with
    | nil => exact .inl ⟨control, after, isControl, split⟩
    | cons d before =>
      rw [List.cons_append, List.cons_append, List.cons.injEq] at split
      exact .inr ⟨before, control, after, isControl, split.2⟩
  · rintro (⟨control, after, isControl, split⟩ | ⟨before, control, after, isControl, rfl⟩)
    · exact ⟨[], control, after, isControl, split⟩
    · exact ⟨c :: before, control, after, isControl, rfl⟩

theorem dropStyles_eq_self_iff {t : Text} : dropStyles t = t ↔ ¬ Styled t := by
  induction t using styled_induction with
  | nil =>
    have empty : ¬ Styled [] := by
      rintro ⟨before, control, after, ⟨parameters, letter, rfl, _⟩, split⟩
      simp at split
    simp [dropStyles_nil, empty]
  | control control after isControl _ =>
    have styled : Styled (control ++ after) := ⟨[], control, after, isControl, rfl⟩
    rw [dropStyles_control isControl]
    refine iff_of_false ?_ (not_not_intro styled)
    intro same
    have shorter := (dropStyles_sublist after).length_le
    obtain ⟨parameters, letter, rfl, _⟩ := isControl
    rw [same, List.length_append, List.length_cons] at shorter
    omega
  | char c rest plain ih =>
    rw [dropStyles_char plain, List.cons.injEq, styled_cons, ih]
    simp [plain]

theorem not_styled_of_plain {t : Text} (plain : escapeCharacter ∉ t) : ¬ Styled t := by
  rintro ⟨before, _, after, ⟨parameters, letter, rfl, _⟩, rfl⟩
  exact plain (by simp)

theorem dropStyles_plain_append {a : Text} (plain : escapeCharacter ∉ a) (b : Text) :
    dropStyles (a ++ b) = a ++ dropStyles b := by
  induction a with
  | nil => rfl
  | cons c rest ih =>
    have other : c ≠ escapeCharacter := fun eq => plain (eq ▸ List.mem_cons_self)
    rw [List.cons_append, dropStyles_char (not_beginsStyled_of_ne other _),
      ih fun member => plain (List.mem_cons_of_mem c member), List.cons_append]

theorem not_beginsStyled_append_newline {c : CodePoint} {rest : Text}
    (plain : ¬ BeginsStyled (c :: rest)) (b : Text) :
    ¬ BeginsStyled (c :: (rest ++ newline :: b)) := by
  rintro ⟨control, after, isControl, split⟩
  rw [← List.cons_append] at split
  rcases List.append_eq_append_iff.mp split with ⟨more, eq, tail⟩ | ⟨more, eq, _⟩
  · cases more with
    | nil => exact plain ⟨control, [], isControl, by simp [eq]⟩
    | cons d more =>
      obtain ⟨rfl, _⟩ := List.cons.inj tail
      exact newline_not_mem_control isControl (by simp [eq])
  · exact plain ⟨control, more, isControl, eq⟩

theorem dropStyles_append_newline (a b : Text) :
    dropStyles (a ++ newline :: b) = dropStyles a ++ newline :: dropStyles b := by
  induction a using styled_induction with
  | nil =>
    have other : newline ≠ escapeCharacter := by decide
    rw [dropStyles_nil]
    exact dropStyles_char (not_beginsStyled_of_ne other b)
  | control control after isControl ih =>
    rw [List.append_assoc, dropStyles_control isControl, dropStyles_control isControl, ih]
  | char c rest plain ih =>
    rw [List.cons_append, dropStyles_char (not_beginsStyled_append_newline plain b),
      dropStyles_char plain, ih, List.cons_append]

theorem dropStyles_concat_newline (t : Text) :
    dropStyles (t ++ [newline]) = dropStyles t ++ [newline] := by
  rw [dropStyles_append_newline, dropStyles_nil]

end CrossShader.Text
