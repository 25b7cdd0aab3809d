import CrossShader.Proofs.Text.Runs

/-!
Renaming and the ends of a text. Blanks at the ends stay as they are when a word is renamed, so a
line may be renamed before it is stripped or after; beginnings without the first letter of either
word stay as well, and no characters come in but those of the new word.
-/
namespace CrossShader.Text

theorem not_blank_of_word_char {c : CodePoint} (wordChar : isWordChar c = true) :
    isBlank c = false := by
  rw [Bool.eq_false_iff]
  intro blank
  rw [no_word_char_of_blank blank] at wordChar
  contradiction

theorem first_renamedRun (word : Text) {new : Text} (isNew : IsWord new) (r : Text) :
    ∀ c ∈ (renamedRun word new r).head?, isWordChar c = true ∨ c ∈ r.head? := by
  intro c first
  rw [renamedRun] at first
  split at first
  · exact Or.inl (isNew.2 c (List.mem_of_mem_head? first))
  · exact Or.inr first

theorem last_renamedRun (word : Text) {new : Text} (isNew : IsWord new) (r : Text) :
    ∀ c ∈ (renamedRun word new r).getLast?, isWordChar c = true ∨ c ∈ r.getLast? := by
  intro c last
  rw [renamedRun] at last
  split at last
  · exact Or.inl (isNew.2 c (List.mem_of_mem_getLast? last))
  · exact Or.inr last

section
variable {word : Text} (isWord : IsWord word)
include isWord

theorem renameWordFrom_of_ends (new : Text) {b : Text} (ends : startsWithWordChar b = false)
    (inWord : Bool) : renameWordFrom word new inWord b = renameWord word new b := by
  cases b with
  | nil => rw [renameWord, renameWordFrom, renameWordFrom]
  | cons c rest =>
    have silent := not_leadsWhole_of_outside isWord ends rest
    rw [renameWord, renameWordFrom, renameWordFrom, silent, Bool.and_false, Bool.and_false]

/-- No word reaches over the end of one, so the parts on both sides are renamed by themselves. -/
theorem renameWordFrom_append (new t : Text) {b : Text} (ends : startsWithWordChar b = false)
    (inWord : Bool) :
    renameWordFrom word new inWord (t ++ b) =
      renameWordFrom word new inWord t ++ renameWord word new b := by
  fun_induction renameWordFrom word new inWord t with
  | case1 inWord => exact renameWordFrom_of_ends isWord new ends inWord
  | case2 inWord c rest leads ih =>
    have whole := leadsWhole_append (t := c :: rest) ends word isWord.2
    have fits : word.length - 1 ≤ rest.length := by
      have starts : word <+: c :: rest := by
        simp only [leadsWhole, Bool.and_eq_true, List.isPrefixOf_iff_prefix] at leads
        exact leads.2.1
      have short := starts.length_le
      rw [List.length_cons] at short
      omega
    rw [List.cons_append] at whole ⊢
    rw [renameWordFrom, whole, if_pos leads, List.drop_append_of_le_length fits, ih,
      List.append_assoc]
  | case3 inWord c rest stays ih =>
    have whole := leadsWhole_append (t := c :: rest) ends word isWord.2
    rw [List.cons_append] at whole ⊢
    rw [renameWordFrom, whole, if_neg stays, ih, List.cons_append]

theorem renameWord_append (new t : Text) {b : Text} (ends : startsWithWordChar b = false) :
    renameWord word new (t ++ b) = renameWord word new t ++ renameWord word new b :=
  renameWordFrom_append isWord new t ends false

theorem renameWord_append_wordless (new t : Text) {b : Text} (wordless : Wordless b) :
    renameWord word new (t ++ b) = renameWord word new t ++ b := by
  have silent := not_hasWordFrom_of_wordless isWord wordless false
  rw [renameWord_append isWord new t (not_startsWithWordChar_of_wordless wordless),
    renameWord_of_not_hasWord new silent]

theorem renameWord_between_wordless (new : Text) {a b : Text} (before : Wordless a)
    (after : Wordless b) (t : Text) :
    renameWord word new (a ++ t ++ b) = a ++ renameWord word new t ++ b := by
  rw [renameWord_append_wordless isWord new _ after, renameWord,
    renameWordFrom_wordless_append isWord new before, renameWord]

/-- Between a separator and the end of a text no word reaches out, so a part there is renamed as it
would be alone. -/
theorem renameWord_isInfix (new front : Text) {separator tail : Text} (nonempty : separator ≠ [])
    (apart : Wordless separator) (ending : Wordless tail) (t : Text) :
    renameWord word new t <:+: renameWord word new (front ++ (separator ++ t ++ tail)) := by
  have ends : startsWithWordChar (separator ++ t ++ tail) = false := by
    obtain ⟨c, rest, rfl⟩ := List.exists_cons_of_ne_nil nonempty
    exact apart c List.mem_cons_self
  rw [renameWord_append isWord new front ends, renameWord_between_wordless isWord new apart ending]
  exact ⟨renameWord word new front ++ separator, tail, by simp only [List.append_assoc]⟩

theorem isTight_renameWord {new : Text} (isNew : IsWord new) {t : Text} (tight : IsTight t) :
    IsTight (renameWord word new t) := by
  obtain ⟨kind, alternating⟩ := runs_alternating t
  have nonempty : ∀ r ∈ runs t, r ≠ [] ∧ renamedRun word new r ≠ [] := by
    intro r member
    obtain ⟨_, run⟩ := alternating.isRun r member
    obtain ⟨_, renamed⟩ := (alternating.renamed isWord isNew).isRun _
      (List.mem_map_of_mem member)
    exact ⟨run.1, renamed.1⟩
  have whole := flatten_runs t
  rw [renameWord_eq_flatten isWord]
  constructor
  · intro c first
    cases pieces : runs t with
    | nil => simp [pieces] at first
    | cons r rest =>
      rw [pieces] at whole nonempty first
      obtain ⟨inhabited, renamed⟩ := nonempty r List.mem_cons_self
      rw [List.map_cons, List.flatten_cons, List.head?_append_of_ne_nil _ renamed] at first
      rcases first_renamedRun word isNew r c first with wordChar | stood
      · exact not_blank_of_word_char wordChar
      · rw [← whole] at tight
        apply tight.first c
        rw [List.flatten_cons, List.head?_append_of_ne_nil _ inhabited]
        exact stood
  · intro c last
    rcases List.eq_nil_or_concat' (runs t) with empty | ⟨front, r, pieces⟩
    · simp [empty] at last
    · rw [pieces] at whole nonempty last
      obtain ⟨inhabited, renamed⟩ := nonempty r List.mem_concat_self
      rw [List.map_append, List.map_singleton, List.flatten_concat,
        List.getLast?_append_of_ne_nil _ renamed] at last
      rcases last_renamedRun word isNew r c last with wordChar | stood
      · exact not_blank_of_word_char wordChar
      · rw [← whole] at tight
        apply tight.last c
        rw [List.flatten_concat, List.getLast?_append_of_ne_nil _ inhabited]
        exact stood

theorem strip_renameWord {new : Text} (isNew : IsWord new) (t : Text) :
    strip (renameWord word new t) = renameWord word new (strip t) := by
  obtain ⟨tail, blank, eq⟩ := indent_append_strip t
  have apart := renameWord_between_wordless isWord new (wordless_of_blank (blank_indent t))
    (wordless_of_blank blank) (strip t)
  rw [eq] at apart
  rw [apart, strip_append_blank _ blank, strip_blank_append (blank_indent t)]
  exact strip_of_isTight (isTight_renameWord isWord isNew (isTight_strip t))

theorem mem_renameWord {new t : Text} {c : CodePoint} (member : c ∈ renameWord word new t) :
    c ∈ t ∨ c ∈ new := by
  rw [renameWord_eq_flatten isWord] at member
  obtain ⟨r, inRuns, inRun⟩ := List.mem_flatten.mp member
  obtain ⟨old, inOld, rfl⟩ := List.mem_map.mp inRuns
  rw [renamedRun] at inRun
  split at inRun
  · exact Or.inr inRun
  · rw [← flatten_runs t]
    exact Or.inl (List.mem_flatten.mpr ⟨old, inOld, inRun⟩)

end

/-- A beginning in which neither word can start is there before renaming and after it. -/
theorem isPrefix_renameWordFrom {word new : Text} (nonempty : word ≠ [] ∧ new ≠ []) (t : Text)
    (inWord : Bool) :
    ∀ start : Text, (∀ c ∈ start, c ∉ word.head? ∧ c ∉ new.head?) →
      (start <+: renameWordFrom word new inWord t ↔ start <+: t) := by
  fun_induction renameWordFrom word new inWord t with
  | case1 => simp
  | case2 inWord c rest leads ih =>
    intro start foreign
    cases start with
    | nil => simp
    | cons s start =>
      obtain ⟨notOld, notNew⟩ := foreign s List.mem_cons_self
      have starts : word <+: c :: rest := by
        simp only [leadsWhole, Bool.and_eq_true, List.isPrefixOf_iff_prefix] at leads
        exact leads.2.1
      obtain ⟨w, ws, rfl⟩ := List.exists_cons_of_ne_nil nonempty.1
      obtain ⟨n, ns, rfl⟩ := List.exists_cons_of_ne_nil nonempty.2
      rw [List.cons_prefix_cons] at starts
      simp only [List.head?_cons, Option.mem_some_iff] at notOld notNew
      simp [List.cons_prefix_cons, ← starts.1, Ne.symm notOld, Ne.symm notNew]
  | case3 inWord c rest stays ih =>
    intro start foreign
    cases start with
    | nil => simp
    | cons s start =>
      have later := ih start fun x member => foreign x (List.mem_cons_of_mem s member)
      rw [List.cons_prefix_cons, List.cons_prefix_cons, later]

theorem isPrefix_renameWord {word new start : Text} (nonempty : word ≠ [] ∧ new ≠ [])
    (foreign : ∀ c ∈ start, c ∉ word.head? ∧ c ∉ new.head?) (t : Text) :
    start <+: renameWord word new t ↔ start <+: t :=
  isPrefix_renameWordFrom nonempty t false start foreign

end CrossShader.Text
