import CrossShader.Text.Lines

/-!
Lines and the text they make. A text that is put together from lines without separators is cut into
these lines again, and the lines of two texts in a row are those of the first, then those of the
second. It is so for every set of separators with the line feed in it.
-/
namespace CrossShader.Text

theorem splitWhere_eq_splitOnP (p : CodePoint → Bool) (t : Text) :
    splitWhere p t = t.splitOnP p := by
  induction t with
  | nil => rfl
  | cons c rest ih =>
    rw [splitWhere, List.splitOnP_cons_eq_if_modifyHead, ih]
    cases pieces : rest.splitOnP p with
    | nil => exact absurd pieces (List.splitOnP_ne_nil p rest)
    | cons piece more => rfl

theorem unlines_cons_cons (l next : Text) (more : List Text) :
    unlines (l :: next :: more) = l ++ newline :: unlines (next :: more) := by
  simp [unlines, join]

theorem unlines_append {a b : List Text} (before : a ≠ []) (after : b ≠ []) :
    unlines (a ++ b) = unlines a ++ newline :: unlines b := by
  induction a with
  | nil => contradiction
  | cons l rest ih =>
    cases rest with
    | nil =>
      obtain ⟨next, more, rfl⟩ := List.exists_cons_of_ne_nil after
      exact unlines_cons_cons l next more
    | cons next more =>
      have later := ih (List.cons_ne_nil next more)
      rw [List.cons_append] at later
      rw [List.cons_append, List.cons_append, unlines_cons_cons, later, unlines_cons_cons,
        List.append_assoc, List.cons_append]

theorem splitWhere_append {p : CodePoint → Bool} {c : CodePoint} (separates : p c = true)
    (a b : Text) : splitWhere p (a ++ c :: b) = splitWhere p a ++ splitWhere p b := by
  simp only [splitWhere_eq_splitOnP]
  exact List.splitOnP_append_cons a b separates

theorem splitWhere_unbroken {p : CodePoint → Bool} {t : Text} (unbroken : ∀ c ∈ t, p c = false) :
    splitWhere p t = [t] := by
  rw [splitWhere_eq_splitOnP]
  exact List.splitOnP_eq_singleton unbroken

theorem unbroken_of_mem_splitWhere {p : CodePoint → Bool} {t piece : Text}
    (listed : piece ∈ splitWhere p t) : ∀ c ∈ piece, p c = false := by
  induction t generalizing piece with
  | nil =>
    obtain rfl := List.mem_singleton.mp listed
    simp
  | cons c rest ih =>
    unfold splitWhere at listed
    split at listed
    case isTrue =>
      rcases List.mem_cons.mp listed with rfl | later
      · simp
      · exact ih later
    case isFalse ordinary =>
      cases pieces : splitWhere p rest with
      | nil => exact absurd pieces (splitWhere_ne_nil p rest)
      | cons first more =>
        rw [pieces] at ih listed
        rcases List.mem_cons.mp listed with rfl | later
        · intro d inside
          rcases List.mem_cons.mp inside with rfl | inside
          · exact Bool.not_eq_true _ |>.mp ordinary
          · exact ih List.mem_cons_self d inside
        · exact ih (List.mem_cons_of_mem first later)

theorem splitWhere_unlines {p : CodePoint → Bool} (separates : p newline = true) {ls : List Text}
    (unbroken : ∀ l ∈ ls, ∀ c ∈ l, p c = false) (nonempty : ls ≠ []) :
    splitWhere p (unlines ls) = ls := by
  induction ls with
  | nil => contradiction
  | cons l rest ih =>
    have first := splitWhere_unbroken (unbroken l List.mem_cons_self)
    cases rest with
    | nil => exact first
    | cons next more =>
      have later := ih (fun k listed => unbroken k (List.mem_cons_of_mem l listed)) (by simp)
      rw [unlines_cons_cons, splitWhere_append separates, first, later]
      rfl

theorem lines_append_newline (a b : Text) : lines (a ++ newline :: b) = lines a ++ lines b :=
  splitWhere_append (by simp) a b

theorem lines_unlines {ls : List Text} (single : ∀ l ∈ ls, newline ∉ l) (nonempty : ls ≠ []) :
    lines (unlines ls) = ls := by
  apply splitWhere_unlines (by simp) _ nonempty
  intro l listed c inside
  exact beq_false_of_ne (ne_of_mem_of_not_mem inside (single l listed))

theorem lines_cons (c : CodePoint) (rest : Text) :
    lines (c :: rest) =
      if c = newline then [] :: lines rest else (lines rest).modifyHead (c :: ·) := by
  simp only [lines, splitWhere_eq_splitOnP, List.splitOnP_cons_eq_if_modifyHead, beq_iff_eq]

theorem mem_unlines {ls : List Text} {c : CodePoint} (member : c ∈ unlines ls) :
    c = newline ∨ ∃ l ∈ ls, c ∈ l := by
  induction ls with
  | nil => simp [unlines, join] at member
  | cons l rest ih =>
    rcases rest with _ | ⟨next, more⟩
    · exact .inr ⟨l, List.mem_cons_self, member⟩
    · rw [unlines_cons_cons, List.mem_append, List.mem_cons] at member
      rcases member with inFirst | eq | later
      · exact .inr ⟨l, List.mem_cons_self, inFirst⟩
      · exact .inl eq
      · rcases ih later with eq | ⟨line, listed, inLine⟩
        · exact .inl eq
        · exact .inr ⟨line, List.mem_cons_of_mem l listed, inLine⟩

theorem infix_unlines {ls : List Text} {l : Text} (listed : l ∈ ls) : l <:+: unlines ls := by
  obtain ⟨before, after, rfl⟩ := List.append_of_mem listed
  have tail : l <+: unlines (l :: after) := by
    rcases after with _ | ⟨next, more⟩
    · exact List.prefix_refl l
    · rw [unlines_cons_cons]
      exact List.prefix_append l _
  rcases before with _ | ⟨first, more⟩
  · exact tail.isInfix
  · rw [unlines_append (List.cons_ne_nil first more) (List.cons_ne_nil l after)]
    exact tail.isInfix.trans ⟨unlines (first :: more) ++ [newline], [], by simp⟩

theorem infix_of_mem_lines {t l : Text} (listed : l ∈ lines t) : l <:+: t := by
  have whole := infix_unlines listed
  rwa [unlines_lines] at whole

theorem newline_not_mem_lines (t : Text) : ∀ l ∈ lines t, newline ∉ l := by
  intro l listed inside
  simpa using unbroken_of_mem_splitWhere listed newline inside

theorem unbroken_wideLines {t l : Text} (listed : l ∈ wideLines t) :
    ∀ c ∈ l, endsLine c = false := by
  unfold wideLines at listed
  dsimp only at listed
  split at listed
  · exact unbroken_of_mem_splitWhere (List.dropLast_subset _ listed)
  · exact unbroken_of_mem_splitWhere listed

theorem wideLines_unlines {ls : List Text} (unbroken : ∀ l ∈ ls, ∀ c ∈ l, endsLine c = false)
    (nonempty : ls ≠ []) : wideLines (unlines ls ++ [newline]) = ls := by
  have cut : splitWhere endsLine (unlines ls ++ [newline]) = ls ++ [[]] := by
    rw [splitWhere_append rfl, splitWhere_unlines rfl unbroken nonempty]
    rfl
  unfold wideLines
  rw [cut]
  simp

theorem unifyLineEnds_of_no_return {t : Text} (absent : 13 ∉ t) : unifyLineEnds t = t := by
  induction t using unifyLineEnds.induct with
  | case1 => rfl
  | case2 rest ih => simp at absent
  | case3 c rest _ ih =>
    rw [List.mem_cons, not_or] at absent
    rw [unifyLineEnds, if_neg (Ne.symm absent.1), ih absent.2]
    assumption

end CrossShader.Text
