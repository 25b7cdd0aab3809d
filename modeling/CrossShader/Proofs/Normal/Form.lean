import CrossShader.Proofs.Normal.Rewriting
import CrossShader.Proofs.Text.Lines

/-!
The normal form. Every pass keeps what the passes before it have brought about, so a body is settled
line by line whatever the lines were, and a settled body is one that no pass changes. The normalized
text is cut into the lines of the header and those of a settled body.
-/
namespace CrossShader.Normal
open Text

def headerLines : List Text :=
  [text "#version 450", text "layout(set = 0, binding = 0) uniform ShaderGlobals \x7b",
    text "    float uTime;", text "    vec2 uResolution;", text "\x7d;"]

/-- Whole words are runs of word characters; a line mentions the builtin if it is one of them. -/
structure IsNormalForm (stage : Text) (ls : List Text) : Prop where
  header : ls.take 5 = headerLines
  oneVersion : ∀ i line, ls[i]? = some line → (text "#version" <+: strip line ↔ i = 0)
  noPrecision : ∀ line ∈ ls, ¬ text "precision " <+: strip line
  noUniform : ∀ line ∈ ls, strip line ∉ uniformLines
  noBareDeclaration : ∀ line ∈ ls, strip line ∉ (interfaceLines stage).map Prod.fst
  noBuiltin : stage = text "fragment" → ∀ line ∈ ls, text "gl_FragColor" ∉ runs line

/-- A line that is no declaration to be rewritten and mentions nothing to be renamed. -/
structure IsRewritten (stage line : Text) : Prop where
  commented : commentedDeclarations.lookup (strip line) = none
  located : (locatedDeclarations stage).lookup (strip line) = none
  redirected : stage = text "fragment" → hasWord legacyBuiltin line = false

/-- A line that no pass has anything to do with. -/
structure IsSettled (stage line : Text) : Prop extends IsRewritten stage line where
  ordinary : isDirective line = false

theorem isRewritten_of_given (stage : Text) :
    ∀ line ∈ [] :: legacyOutput.declaration .out :: headerLines, IsRewritten stage line := by
  have given : ∀ line ∈ [] :: legacyOutput.declaration .out :: headerLines,
      commentedDeclarations.lookup (strip line) = none ∧
        (locatedDeclarations (text "vertex")).lookup (strip line) = none ∧
        (locatedDeclarations (text "fragment")).lookup (strip line) = none ∧
        hasWord legacyBuiltin line = false := by
    decide
  intro line member
  obtain ⟨commented, vertex, fragment, silent⟩ := given line member
  refine ⟨commented, ?_, fun _ => silent⟩
  rcases tables_cases stage with ⟨eq, _⟩ | ⟨eq, _⟩
  · rw [eq, vertex]
  · rw [eq, fragment]

theorem isSettled_of_given (stage : Text) :
    ∀ line ∈ [] :: legacyOutput.declaration .out :: headerLines.tail, IsSettled stage line := by
  have ordinary : ∀ line ∈ [] :: legacyOutput.declaration .out :: headerLines.tail,
      isDirective line = false := by
    decide
  intro line member
  refine ⟨isRewritten_of_given stage line ?_, ordinary line member⟩
  rcases List.mem_cons.mp member with rfl | later
  · exact List.mem_cons_self
  · rcases List.mem_cons.mp later with rfl | ofHeader
    · exact List.mem_cons_of_mem _ List.mem_cons_self
    · exact List.mem_cons_of_mem _ (List.mem_cons_of_mem _ (List.mem_of_mem_tail ofHeader))

theorem isSettled_nil (stage : Text) : IsSettled stage [] :=
  isSettled_of_given stage [] List.mem_cons_self

theorem isSettled_declaration (stage : Text) :
    IsSettled stage (legacyOutput.declaration .out) :=
  isSettled_of_given stage _ (List.mem_cons_of_mem _ List.mem_cons_self)

theorem isSettled_headerLines (stage : Text) : ∀ line ∈ headerLines.tail, IsSettled stage line :=
  fun line member => isSettled_of_given stage line
    (List.mem_cons_of_mem _ (List.mem_cons_of_mem _ member))

theorem bodyLines_eq_replace (stage : Text) (ls : List Text) :
    bodyLines stage ls =
      replaceLegacyOutput stage ((stripDirectives ls).map (declaredLine stage)) := by
  rw [bodyLines, neutralizeUniforms, locateVaryings, List.map_map]
  rfl

theorem declaredLine_settles (stage : Text) (ls : List Text) :
    ∀ line ∈ (stripDirectives ls).map (declaredLine stage), isDirective line = false ∧
      commentedDeclarations.lookup (strip line) = none ∧
      (locatedDeclarations stage).lookup (strip line) = none := by
  intro line member
  obtain ⟨kept, among, rfl⟩ := List.mem_map.mp member
  have ordinary : isDirective kept = false := by simpa using (List.mem_filter.mp among).2
  have uncommented := lookup_strip_locateLine commentedDeclarations_isTame kept
  rw [declaredLine, neutralizeLine_eq]
  refine ⟨?_, ?_, ?_⟩
  · rw [isDirective_locateLine (locatedDeclarations_isTame stage),
      isDirective_locateLine commentedDeclarations_isTame, ordinary]
  · exact lookup_strip_locateLine_of_leaves (located_leaves_commented stage) uncommented
  · exact lookup_strip_locateLine (locatedDeclarations_isTame stage) _

theorem isSettled_bodyLines (stage : Text) (ls : List Text) :
    ∀ line ∈ bodyLines stage ls, IsSettled stage line := by
  have declared := declaredLine_settles stage ls
  rw [bodyLines_eq_replace, replaceLegacyOutput]
  split
  case isTrue =>
    -- A renamed line keeps what the earlier passes have brought about.
    intro line member
    rcases List.mem_cons.mp member with rfl | rewritten
    · exact isSettled_declaration stage
    · obtain ⟨old, inside, rfl⟩ := List.mem_map.mp rewritten
      obtain ⟨ordinary, commented, located⟩ := declared old inside
      exact ⟨⟨lookup_strip_redirectedLine commentedDeclarations_isTame commented,
        lookup_strip_redirectedLine (locatedDeclarations_isTame stage) located,
        fun _ => not_hasWord_redirectedLine old⟩, (isDirective_redirectedLine old).trans ordinary⟩
  case isFalse quiet =>
    have silent : stage = text "fragment" →
        ∀ line ∈ (stripDirectives ls).map (declaredLine stage),
          hasWord legacyBuiltin line = false := by
      simpa [redirectsLegacy] using quiet
    intro line member
    obtain ⟨ordinary, commented, located⟩ := declared line member
    exact ⟨⟨commented, located, fun fragment => silent fragment line member⟩, ordinary⟩

theorem declaredLine_of_isSettled {stage line : Text} (settled : IsSettled stage line) :
    declaredLine stage line = line := by
  rw [declaredLine, neutralizeLine_eq, locateLine_of_lookup_none settled.commented,
    locateLine_of_lookup_none settled.located]

theorem replaceLegacyOutput_of_silent {stage : Text} {ls : List Text}
    (silent : stage = text "fragment" → ∀ line ∈ ls, hasWord legacyBuiltin line = false) :
    replaceLegacyOutput stage ls = ls := by
  rw [replaceLegacyOutput, if_neg]
  simpa [redirectsLegacy] using silent

theorem bodyLines_of_isSettled {stage : Text} {ls : List Text}
    (settled : ∀ line ∈ ls, IsSettled stage line) : bodyLines stage ls = ls := by
  have kept : stripDirectives ls = ls := by
    apply List.filter_eq_self.mpr
    intro line member
    simp [(settled line member).ordinary]
  have declared : ls.map (declaredLine stage) = ls := by
    conv => rhs; rw [← List.map_id ls]
    exact List.map_congr_left fun line member => declaredLine_of_isSettled (settled line member)
  rw [bodyLines_eq_replace, kept, declared]
  exact replaceLegacyOutput_of_silent fun fragment line member =>
    (settled line member).redirected fragment

/-- A line holds what it held before, and plain characters that the passes write. -/
theorem forall_locateLine {P : CodePoint → Prop} {table : List (Text × Text)}
    (written : ∀ entry ∈ table, ∀ c ∈ entry.2, P c) {line : Text} (holds : ∀ c ∈ line, P c) :
    ∀ c ∈ locateLine table line, P c := by
  intro c member
  rcases locateLine_cases table line with ⟨d, entry, eq⟩ | ⟨_, eq⟩
  · rw [eq] at member
    rcases List.mem_append.mp member with blank | new
    · exact holds c ((List.takeWhile_prefix isBlank).subset blank)
    · exact written _ entry c new
  · rw [eq] at member
    exact holds c member

theorem tables_are_plain (stage : Text) :
    (∀ entry ∈ commentedDeclarations, ∀ c ∈ entry.2, 32 ≤ c ∧ c < 127) ∧
      (∀ entry ∈ locatedDeclarations stage, ∀ c ∈ entry.2, 32 ≤ c ∧ c < 127) ∧
      ∀ c ∈ legacyOutput.declaration .out ++ legacyOutput.name, 32 ≤ c ∧ c < 127 := by
  refine ⟨by decide, ?_, by decide⟩
  rcases tables_cases stage with ⟨eq, _⟩ | ⟨eq, _⟩ <;> rw [eq] <;> decide

theorem forall_bodyLines {P : CodePoint → Prop} (plain : ∀ c, 32 ≤ c → c < 127 → P c)
    (stage : Text) {ls : List Text} (holds : ∀ line ∈ ls, ∀ c ∈ line, P c) :
    ∀ line ∈ bodyLines stage ls, ∀ c ∈ line, P c := by
  obtain ⟨commented, located, redirected⟩ := tables_are_plain stage
  have declared : ∀ line ∈ (stripDirectives ls).map (declaredLine stage), ∀ c ∈ line, P c := by
    intro line member
    obtain ⟨kept, among, rfl⟩ := List.mem_map.mp member
    rw [declaredLine, neutralizeLine_eq]
    have neutral := forall_locateLine (P := P)
      (fun entry inside c new => plain c (commented entry inside c new).1
        (commented entry inside c new).2)
      (holds kept (List.mem_filter.mp among).1)
    exact forall_locateLine (fun entry inside c new => plain c (located entry inside c new).1
      (located entry inside c new).2) neutral
  rw [bodyLines_eq_replace, replaceLegacyOutput]
  split
  case isTrue =>
    intro line member c inLine
    rcases List.mem_cons.mp member with rfl | rewritten
    · obtain ⟨low, high⟩ := redirected c (List.mem_append_left _ inLine)
      exact plain c low high
    · obtain ⟨old, inside, rfl⟩ := List.mem_map.mp rewritten
      rcases mem_renameWord legacyBuiltin_isWord inLine with stood | new
      · exact declared old inside c stood
      · obtain ⟨low, high⟩ := redirected c (List.mem_append_right _ new)
        exact plain c low high
  case isFalse => exact declared

theorem rewrittenLine_isInfix (stage : Text) {source line : Text}
    (kept : line ∈ keptLines source) :
    rewrittenLine stage line <:+: unlines (bodyLines stage (lines source)) := by
  rw [bodyLines_eq]
  exact infix_unlines (List.mem_append_right _ (List.mem_map_of_mem kept))

/-- Normalization brings in line feeds and plain characters alone. -/
theorem mem_normalize {stage source : Text} {c : CodePoint} (member : c ∈ normalize stage source) :
    c ∈ source ∨ c = newline ∨ 32 ≤ c ∧ c < 127 := by
  have header : ∀ c ∈ header ++ text "\n", c = newline ∨ 32 ≤ c ∧ c < 127 := by decide +kernel
  rw [normalize] at member
  rcases List.mem_append.mp member with inHeader | inBody
  · exact .inr (header c inHeader)
  · rcases mem_unlines inBody with ended | ⟨line, listed, inLine⟩
    · exact .inr (.inl ended)
    · have among := forall_bodyLines (P := fun c => c ∈ source ∨ 32 ≤ c ∧ c < 127)
        (fun c low high => .inr ⟨low, high⟩) stage
        (fun line listed c inLine => .inl ((infix_of_mem_lines listed).subset inLine))
        line listed c inLine
      exact among.imp_right .inr

/-- The lines of the body; a body without lines is read as one empty line. -/
def readLines (ls : List Text) : List Text := lines (unlines ls)

theorem readLines_bodyLines (stage source : Text) :
    readLines (bodyLines stage (lines source)) =
      if bodyLines stage (lines source) = [] then [[]] else bodyLines stage (lines source) := by
  have single : ∀ line ∈ bodyLines stage (lines source), newline ∉ line := by
    have given : ∀ line ∈ lines source, ∀ c ∈ line, c ≠ newline := by
      intro line member c inLine same
      exact newline_not_mem_lines source line member (same ▸ inLine)
    intro line member inLine
    refine forall_bodyLines (P := (· ≠ newline)) ?_ stage given line member newline inLine rfl
    intro c low _ same
    rw [same] at low
    exact absurd low (by decide)
  split
  case isTrue empty =>
    rw [empty]
    rfl
  case isFalse some => exact lines_unlines single some

theorem lines_normalize (stage source : Text) :
    lines (normalize stage source) =
      headerLines ++ readLines (bodyLines stage (lines source)) := by
  have cut : lines header = headerLines := by decide
  have glue : text "\n" = [newline] := rfl
  rw [normalize, glue, List.append_assoc, List.singleton_append, lines_append_newline, cut]
  rfl

theorem isSettled_readLines (stage source : Text) :
    ∀ line ∈ readLines (bodyLines stage (lines source)), IsSettled stage line := by
  rw [readLines_bodyLines]
  split
  case isTrue =>
    intro line member
    rw [List.mem_singleton.mp member]
    exact isSettled_nil stage
  case isFalse => exact isSettled_bodyLines stage (lines source)

theorem not_prefix_of_ordinary {line : Text} (ordinary : isDirective line = false) :
    ¬ text "#version" <+: strip line ∧ ¬ text "precision " <+: strip line := by
  rw [isDirective, Bool.or_eq_false_iff] at ordinary
  simpa only [← List.isPrefixOf_iff_prefix, Bool.not_eq_true] using ordinary

section
variable {stage line : Text} (rewritten : IsRewritten stage line)
include rewritten

theorem IsRewritten.noUniform : strip line ∉ uniformLines := by
  rw [← uniformDeclarations_eq]
  exact lookup_commented_eq_none.mp rewritten.commented

theorem IsRewritten.noBareDeclaration : strip line ∉ (interfaceLines stage).map Prod.fst := by
  rw [← locatedDeclarations_eq]
  intro member
  obtain ⟨entry, listed, same⟩ := List.mem_map.mp member
  have differ := List.lookup_eq_none_iff.mp rewritten.located entry listed
  simp [same] at differ

theorem IsRewritten.noBuiltin (fragment : stage = text "fragment") :
    text "gl_FragColor" ∉ runs line := by
  have silent := rewritten.redirected fragment
  rwa [← Bool.not_eq_true, hasWord_iff_mem_runs legacyBuiltin_isWord] at silent

end

theorem isNormalForm_of_isSettled {stage : Text} {rest : List Text}
    (settled : ∀ line ∈ rest, IsSettled stage line) (header : rest.take 4 = headerLines.tail) :
    IsNormalForm stage (text "#version 450" :: rest) := by
  have rewritten : ∀ line ∈ text "#version 450" :: rest, IsRewritten stage line := by
    intro line member
    rcases List.mem_cons.mp member with rfl | later
    · exact isRewritten_of_given stage _
        (List.mem_cons_of_mem _ (List.mem_cons_of_mem _ List.mem_cons_self))
    · exact (settled line later).toIsRewritten
  have version : text "#version" <+: strip (text "#version 450") := by decide
  have notPrecision : ¬ text "precision " <+: strip (text "#version 450") := by decide
  refine ⟨?_, ?_, ?_, fun line member => (rewritten line member).noUniform,
    fun line member => (rewritten line member).noBareDeclaration,
    fun fragment line member => (rewritten line member).noBuiltin fragment⟩
  · rw [List.take_succ_cons, header]
    rfl
  · intro i line found
    cases i with
    | zero =>
      rw [List.getElem?_cons_zero, Option.some.injEq] at found
      simp [← found, version]
    | succ i =>
      rw [List.getElem?_cons_succ] at found
      have ordinary := (settled line (List.mem_of_getElem? found)).ordinary
      simp [(not_prefix_of_ordinary ordinary).1]
  · intro line member
    rcases List.mem_cons.mp member with rfl | later
    · exact notPrecision
    · exact (not_prefix_of_ordinary (settled line later).ordinary).2

/-- Every text has a normal form, and its lines are in that form. -/
theorem normalize_isNormalForm (stage source : Text) :
    IsNormalForm stage (lines (normalize stage source)) := by
  rw [lines_normalize]
  apply isNormalForm_of_isSettled
  · intro line member
    rcases List.mem_append.mp member with ofHeader | ofBody
    · exact isSettled_headerLines stage line ofHeader
    · exact isSettled_readLines stage source line ofBody
  · rfl

end CrossShader.Normal
