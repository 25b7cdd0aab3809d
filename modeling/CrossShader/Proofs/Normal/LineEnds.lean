import CrossShader.Proofs.Normal.Form
import Mathlib.Data.List.Forall2

/-!
The two styles of line ends. With carriage returns in front of its line feeds a source has the same
lines, all but the last with one blank more at the end. No pass sees a difference there: a line that
is replaced loses the blank, and every other one keeps it behind what has become of the line.
-/
namespace CrossShader

namespace Text

def carriageReturn : CodePoint := 13

def crlf (t : Text) : Text :=
  t.flatMap fun c => if c = newline then [carriageReturn, newline] else [c]

def dropReturn (line : Text) : Text :=
  if line.getLast? = some carriageReturn then line.dropLast else line

/-- The second line is the first one, or that with a carriage return after it. -/
inductive MayReturn (line : Text) : Text → Prop where
  | same : MayReturn line line
  | returned : MayReturn line (line ++ [carriageReturn])

theorem blank_return : Blank [carriageReturn] := by decide

namespace MayReturn
variable {line line' : Text} (may : MayReturn line line')
include may

theorem cons (c : CodePoint) : MayReturn (c :: line) (c :: line') := by
  cases may with
  | same => exact .same
  | returned => exact .returned

theorem strip_eq : strip line' = strip line := by
  cases may with
  | same => rfl
  | returned => exact strip_append_blank line blank_return

theorem hasWord_eq {word : Text} (isWord : IsWord word) :
    hasWord word line' = hasWord word line := by
  rw [← hasWord_strip isWord, may.strip_eq, hasWord_strip isWord]

theorem dropReturn_eq (plain : carriageReturn ∉ line) : dropReturn line' = line := by
  cases may with
  | same =>
    rw [dropReturn, if_neg]
    exact fun last => plain (List.mem_of_getLast? last)
  | returned => simp [dropReturn]

end MayReturn

theorem lines_crlf (t : Text) : List.Forall₂ MayReturn (lines t) (lines (crlf t)) := by
  induction t with
  | nil => exact .cons .same .nil
  | cons c rest ih =>
    by_cases ends : c = newline
    · subst ends
      have cut : lines (crlf (newline :: rest)) = [carriageReturn] :: lines (crlf rest) :=
        lines_append_newline [carriageReturn] (crlf rest)
      rw [cut, lines_cons, if_pos rfl]
      exact .cons .returned ih
    · have kept : crlf (c :: rest) = c :: crlf rest := by simp [crlf, ends]
      rw [kept, lines_cons, lines_cons, if_neg ends, if_neg ends]
      -- The new character stands in front of both first lines; the other lines stay.
      generalize lines rest = ls, lines (crlf rest) = ls' at ih
      cases ih with
      | nil => exact .nil
      | cons first later => exact .cons (first.cons c) later

theorem map_dropReturn {ls ls' : List Text} (alike : List.Forall₂ MayReturn ls ls')
    (plain : ∀ l ∈ ls, carriageReturn ∉ l) : ls'.map dropReturn = ls := by
  induction alike with
  | nil => rfl
  | cons first _ ih =>
    obtain ⟨here, later⟩ := List.forall_mem_cons.mp plain
    rw [List.map_cons, first.dropReturn_eq here, ih later]

end Text

namespace Normal
open Text

theorem interfaceLines_solid (stage : Text) : (interfaceLines stage).lookup [] = none := by
  rcases tables_cases stage with ⟨_, eq⟩ | ⟨_, eq⟩ <;> rw [eq] <;> decide

theorem rewrittenLine_mayReturn (stage : Text) {line line' : Text} (may : MayReturn line line') :
    MayReturn (rewrittenLine stage line) (rewrittenLine stage line') := by
  cases may with
  | same => exact .same
  | returned =>
    rw [rewrittenLine, rewrittenLine, strip_append_blank line blank_return]
    -- A line that is replaced is not blank, so the return at its end is no part of the indentation.
    by_cases uniform : strip line ∈ uniformLines
    · have solid : strip line ≠ [] := by
        intro empty
        rw [empty] at uniform
        exact absurd uniform (by decide)
      rw [if_pos uniform, if_pos uniform, indent_append solid]
      exact .same
    · rw [if_neg uniform, if_neg uniform]
      cases found : (interfaceLines stage).lookup (strip line) with
      | some declaration =>
        have solid : strip line ≠ [] := by
          intro empty
          rw [empty, interfaceLines_solid] at found
          contradiction
        dsimp only
        rw [indent_append solid]
        exact .same
      | none =>
        dsimp only
        have renamed (new : Text) : renameWord legacyBuiltin new (line ++ [carriageReturn]) =
            renameWord legacyBuiltin new line ++ [carriageReturn] :=
          renameWord_append_wordless legacyBuiltin_isWord new line (wordless_of_blank blank_return)
        split
        case isTrue => exact renamed (text "legacyFragColor") ▸ .returned
        case isFalse => exact .returned

theorem keptLines_crlf (source : Text) :
    List.Forall₂ MayReturn (keptLines source) (keptLines (crlf source)) := by
  rw [← stripDirectives_lines, ← stripDirectives_lines]
  refine List.rel_filter ?_ (lines_crlf source)
  intro line line' may
  simp only [isDirective_congr may.strip_eq]

theorem insertedLines_mayReturn (stage : Text) {kept kept' : List Text}
    (alike : List.Forall₂ MayReturn kept kept') :
    insertedLines stage kept' = insertedLines stage kept := by
  have mention : kept'.any (hasWord legacyBuiltin) = kept.any (hasWord legacyBuiltin) := by
    induction alike with
    | nil => rfl
    | cons first _ ih =>
      rw [List.any_cons, List.any_cons, first.hasWord_eq legacyBuiltin_isWord, ih]
  rw [legacyBuiltin] at mention
  rw [insertedLines, insertedLines, mention]

theorem bodyLines_crlf (stage source : Text) :
    List.Forall₂ MayReturn (bodyLines stage (lines source))
      (bodyLines stage (lines (crlf source))) := by
  have kept := keptLines_crlf source
  rw [bodyLines_eq, bodyLines_eq, insertedLines_mayReturn stage kept]
  exact List.rel_append (List.forall₂_same.mpr fun _ _ => .same)
    (List.rel_map (fun _ _ may => rewrittenLine_mayReturn stage may) kept)

theorem lines_normalize_crlf (stage source : Text) :
    List.Forall₂ MayReturn (lines (normalize stage source))
      (lines (normalize stage (crlf source))) := by
  have body := bodyLines_crlf stage source
  rw [lines_normalize, lines_normalize, readLines_bodyLines, readLines_bodyLines]
  refine List.rel_append (List.forall₂_same.mpr fun _ _ => .same) ?_
  -- A body without lines is read as an empty line, and then both are without lines.
  generalize bodyLines stage (lines source) = ls,
    bodyLines stage (lines (crlf source)) = ls' at body
  cases body with
  | nil => exact .cons .same .nil
  | cons first later => exact .cons first later

/-- A source and the same with carriage returns have the same normal form but for these: the same
lines are dropped, the others are rewritten alike, and the same declaration comes first. -/
theorem normalize_crlf (stage source : Text) (plain : carriageReturn ∉ source) :
    (lines (normalize stage (crlf source))).length = (lines (normalize stage source)).length ∧
      (lines (normalize stage (crlf source))).map dropReturn =
        (lines (normalize stage source)).map dropReturn ∧
      List.Forall₂ (fun line line' => dropReturn line' = line ∧
        isDirective line' = isDirective line) (lines source) (lines (crlf source)) ∧
      List.Forall₂ (fun line line' => dropReturn line' = line ∧
        dropReturn (rewrittenLine stage line') = rewrittenLine stage line)
        (keptLines source) (keptLines (crlf source)) ∧
      insertedLines stage (keptLines (crlf source)) = insertedLines stage (keptLines source) := by
  have written : ∀ line ∈ lines source, carriageReturn ∉ line := fun line listed inLine =>
    plain ((infix_of_mem_lines listed).subset inLine)
  have clean : carriageReturn ∉ normalize stage source := by
    intro member
    rcases mem_normalize member with inText | ended | ⟨low, _⟩
    · exact plain inText
    · exact absurd ended (by decide)
    · exact absurd low (by decide)
  have normal : ∀ line ∈ lines (normalize stage source), carriageReturn ∉ line :=
    fun line listed inLine => clean ((infix_of_mem_lines listed).subset inLine)
  have rewritten : ∀ line ∈ keptLines source,
      carriageReturn ∉ line ∧ carriageReturn ∉ rewrittenLine stage line := by
    intro line kept
    refine ⟨written line (List.mem_of_mem_filter kept), fun inLine => clean ?_⟩
    exact List.mem_append_right _ ((rewrittenLine_isInfix stage kept).subset inLine)
  have same := map_dropReturn (List.forall₂_same.mpr fun _ _ => .same) normal
  have alike := map_dropReturn (lines_normalize_crlf stage source) normal
  refine ⟨(lines_normalize_crlf stage source).length_eq.symm, alike.trans same.symm, ?_, ?_,
    insertedLines_mayReturn stage (keptLines_crlf source)⟩
  · have paired := (List.forall₂_and_left _ _).mpr ⟨written, lines_crlf source⟩
    exact paired.imp fun _ _ ⟨here, may⟩ =>
      ⟨may.dropReturn_eq here, isDirective_congr may.strip_eq⟩
  · have paired := (List.forall₂_and_left _ _).mpr ⟨rewritten, keptLines_crlf source⟩
    exact paired.imp fun _ _ ⟨⟨here, after⟩, may⟩ =>
      ⟨may.dropReturn_eq here, (rewrittenLine_mayReturn stage may).dropReturn_eq after⟩

/-- A last line that is dropped, a declaration and a builtin at the end of their lines. -/
theorem fragment_with_carriage_returns :
    let source := text "precision highp int;\n  in vec2 vUv;\nfloat f;\ngl_FragColor\n#version 1"
    carriageReturn ∉ source ∧
      (lines (normalize (text "fragment") (crlf source))).map dropReturn =
        headerLines ++ [text "layout(location = 0) out vec4 legacyFragColor;",
          text "  layout(location = 0) in vec2 vUv;", text "float f;", text "legacyFragColor"] := by
  intro source
  have plain : carriageReturn ∉ source := by decide
  obtain ⟨_, alike, _⟩ := normalize_crlf (text "fragment") source plain
  refine ⟨plain, alike.trans ?_⟩
  decide +kernel

end Normal
end CrossShader
