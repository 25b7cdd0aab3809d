import CrossShader.Proofs.Normal.Passes

/-!
What stands behind a semicolon on its line. A directive is dropped with its whole line and takes the
rest along; behind any other statement the rest stays, renamed where its line is.
-/
namespace CrossShader.Normal
open Text

def redirected (stage t : Text) : Text :=
  if stage = text "fragment" then renameWord (text "gl_FragColor") (text "legacyFragColor") t else t

def BeginsComment (t : Text) : Prop := text "//" <+: strip t ∨ text "/*" <+: strip t

instance (t : Text) : Decidable (BeginsComment t) := inferInstanceAs (Decidable (_ ∨ _))

/-- What follows a precision directive on its line, if it is no comment, is found in the body. -/
def KeepsRemainders (stage source : Text) : Prop :=
  ∀ line ∈ lines source, text "precision " <+: strip line →
    ∀ before after, strip line = before ++ text ";" ++ after → ¬ Blank after →
      ¬ BeginsComment after →
      ∃ body, normalize stage source = header ++ text "\n" ++ body ∧
        redirected stage after <:+: body

theorem declarations_end_once (stage : Text) :
    (∀ d ∈ uniformLines, 59 ∉ d.dropLast) ∧
      ∀ entry ∈ interfaceLines stage, 59 ∉ entry.1.dropLast := by
  refine ⟨by decide, ?_⟩
  rcases tables_cases stage with ⟨_, eq⟩ | ⟨_, eq⟩ <;> rw [eq] <;> decide

theorem rewrittenLine_of_further {stage line before after : Text}
    (parts : strip line = before ++ text ";" ++ after) (further : after ≠ []) :
    rewrittenLine stage line = redirected stage line := by
  obtain ⟨uniforms, interface⟩ := declarations_end_once stage
  have inside : 59 ∈ (strip line).dropLast := by
    rw [parts, List.dropLast_append_of_ne_nil further]
    simp [text]
  have other : strip line ∉ uniformLines := fun listed => uniforms _ listed inside
  have absent : (interfaceLines stage).lookup (strip line) = none := by
    cases found : (interfaceLines stage).lookup (strip line) with
    | none => rfl
    | some declaration => exact absurd inside (interface _ (Table.mem_of_lookup found))
  rw [rewrittenLine, if_neg other, absent]
  rfl

theorem redirected_isInfix (stage : Text) {line before after : Text}
    (parts : strip line = before ++ text ";" ++ after) :
    redirected stage after <:+: redirected stage line := by
  obtain ⟨tail, blank, eq⟩ := indent_append_strip line
  obtain ⟨front, whole⟩ : ∃ front, line = front ++ (text ";" ++ after ++ tail) := by
    refine ⟨indent line ++ before, ?_⟩
    rw [parts] at eq
    simpa only [List.append_assoc] using eq.symm
  have semicolon : Wordless (text ";") := by
    intro c member
    rw [List.mem_singleton.mp member]
    decide
  rw [redirected, redirected, whole]
  split
  case isTrue =>
    exact renameWord_isInfix legacyBuiltin_isWord _ front (by decide) semicolon
      (wordless_of_blank blank) after
  case isFalse => exact ⟨front ++ text ";", tail, by simp only [List.append_assoc]⟩

theorem normalize_of_directive (stage : Text) {source line : Text} {front back : List Text}
    (cut : lines source = front ++ line :: back) (directive : isDirective line = true) :
    normalize stage source = normalize stage (unlines (front ++ back)) := by
  rw [normalize, normalize, cut, bodyLines_of_directive directive]
  congr 1
  -- Without another line the rest is the empty text, which is read as one empty line.
  by_cases nothing : front ++ back = []
  · rw [nothing]
    have empty : bodyLines stage [] = [] := bodyLines_of_isSettled (by simp)
    have single : bodyLines stage [[]] = [[]] := bodyLines_of_isSettled (by simp [isSettled_nil])
    have cut : lines (unlines []) = [[]] := rfl
    rw [cut, empty, single]
    rfl
  · have single : ∀ l ∈ front ++ back, newline ∉ l := by
      intro l listed
      apply newline_not_mem_lines source
      rw [cut]
      exact ((List.sublist_cons_self line back).append_left front).subset listed
    rw [lines_unlines single nothing]

/-- Behind a semicolon a text outlives the normalization unless its line begins as a directive; such
a line is dropped with everything on it, and nothing else changes. -/
theorem remainder_stays_unless_directive (stage source line before after : Text)
    (front back : List Text) (cut : lines source = front ++ line :: back)
    (parts : strip line = before ++ text ";" ++ after) (further : ¬ Blank after) :
    (¬ text "#version" <+: strip line → ¬ text "precision " <+: strip line →
      ∃ body, normalize stage source = header ++ text "\n" ++ body ∧
        redirected stage after <:+: body) ∧
    (text "#version" <+: strip line ∨ text "precision " <+: strip line →
      normalize stage source = normalize stage (unlines (front ++ back))) := by
  have nonempty : after ≠ [] := by
    rintro rfl
    exact further (by decide)
  refine ⟨?_, ?_⟩
  · intro noVersion noPrecision
    have kept : line ∈ keptLines source := by
      rw [keptLines, List.mem_filter, cut]
      simp [noVersion, noPrecision]
    have placed := rewrittenLine_isInfix stage kept
    rw [rewrittenLine_of_further parts nonempty] at placed
    exact ⟨_, rfl, (redirected_isInfix stage parts).trans placed⟩
  · intro begins
    refine normalize_of_directive stage cut ?_
    simpa only [isDirective, Bool.or_eq_true, List.isPrefixOf_iff_prefix] using begins

/-- Behind a declaration that would be rewritten on a line of its own, and behind a directive. -/
theorem statement_stays_behind_declaration :
    let line := text "uniform float uTime; gl_FragColor = c;"
    let source := line ++ text "\nprecision highp float; float f;"
    (∃ body, normalize (text "fragment") source = header ++ text "\n" ++ body ∧
      text " legacyFragColor = c;" <:+: body) ∧
      normalize (text "fragment") source = normalize (text "fragment") line := by
  intro line source
  obtain ⟨stays, _⟩ := remainder_stays_unless_directive (text "fragment") source line
    (text "uniform float uTime") (text " gl_FragColor = c;") [] [_] rfl (by decide)
    (by decide)
  obtain ⟨_, goes⟩ := remainder_stays_unless_directive (text "fragment") source _
    (text "precision highp float") (text " float f;") [line] [] rfl (by decide)
    (by decide)
  have renamed : redirected (text "fragment") (text " gl_FragColor = c;") =
      text " legacyFragColor = c;" := by
    decide +kernel
  rw [renamed] at stays
  exact ⟨stays (by decide) (by decide), goes (.inr (by decide))⟩

/-- A shader that stands on one line with its precision directive is lost. -/
theorem one_line_shader_is_dropped :
    ¬ KeepsRemainders (text "fragment") (text "precision highp float; void main() \x7b\x7d") := by
  intro keeps
  obtain ⟨body, normal, found⟩ := keeps _ List.mem_cons_self (by decide)
    (text "precision highp float") (text " void main() \x7b\x7d") (by decide)
    (by decide) (by decide)
  have bare : normalize (text "fragment") (text "precision highp float; void main() \x7b\x7d") =
      header ++ text "\n" ++ [] := by
    decide +kernel
  rw [List.append_cancel_left (normal.symm.trans bare), List.infix_nil] at found
  exact absurd found (by decide +kernel)

end CrossShader.Normal
