import CrossShader.Proofs.Normal.Form
import Mathlib.Logic.Function.Conjugate

/-!
The passes as maps of lists of lines. Each of them done twice is done once, and they can change
places, with one reservation: the pass that redirects the legacy output looks at all lines, so it
must not be a directive alone that mentions the builtin when directives are dropped before it. The
passes together settle a text, which another normalization then leaves alone but for the version
line.
-/
namespace CrossShader.Normal
open Text

theorem neutralizeUniforms_eq (ls : List Text) :
    neutralizeUniforms ls = ls.map (locateLine commentedDeclarations) :=
  List.map_congr_left fun line _ => neutralizeLine_eq line

theorem stripDirectives_stripDirectives (ls : List Text) :
    stripDirectives (stripDirectives ls) = stripDirectives ls := by
  rw [stripDirectives, stripDirectives, List.filter_filter]
  simp

theorem stripDirectives_map {f : Text → Text}
    (keeps : ∀ line, isDirective (f line) = isDirective line) (ls : List Text) :
    stripDirectives (ls.map f) = (stripDirectives ls).map f := by
  rw [stripDirectives, stripDirectives, List.filter_map]
  congr 1
  apply List.filter_congr
  intro line _
  rw [Function.comp_apply, keeps]

section
variable {table : List (Text × Text)} (tame : IsTame table)
include tame

theorem map_locateLine_map (ls : List Text) :
    (ls.map (locateLine table)).map (locateLine table) = ls.map (locateLine table) := by
  rw [List.map_map]
  exact List.map_congr_left fun line _ => locateLine_locateLine tame line

theorem redirectsLegacy_map_locateLine (stage : Text) (ls : List Text) :
    redirectsLegacy stage (ls.map (locateLine table)) = redirectsLegacy stage ls := by
  rw [redirectsLegacy, redirectsLegacy, List.any_map]
  congr 2
  funext line
  exact hasWord_locateLine tame line

theorem locateLine_declaration :
    locateLine table (legacyOutput.declaration .out) = legacyOutput.declaration .out := by
  have mention : hasWord legacyOutput.name (legacyOutput.declaration .out) = true := by
    decide
  exact locateLine_of_lookup_none (lookup_strip_of_mention tame (Or.inr mention))

theorem replaceLegacyOutput_map_locateLine (stage : Text) (ls : List Text) :
    replaceLegacyOutput stage (ls.map (locateLine table)) =
      (replaceLegacyOutput stage ls).map (locateLine table) := by
  rw [replaceLegacyOutput, replaceLegacyOutput, redirectsLegacy_map_locateLine tame]
  split
  case isTrue =>
    rw [List.map_cons, locateLine_declaration tame, List.map_map, List.map_map]
    congr 1
    apply List.map_congr_left
    intro line _
    exact (locateLine_redirectedLine tame line).symm
  case isFalse => rfl

end

theorem neutralizeUniforms_locateVaryings (stage : Text) (ls : List Text) :
    neutralizeUniforms (locateVaryings stage ls) =
      locateVaryings stage (neutralizeUniforms ls) := by
  rw [neutralizeUniforms_eq, neutralizeUniforms_eq, locateVaryings, locateVaryings, List.map_map,
    List.map_map]
  apply List.map_congr_left
  intro line _
  exact locateLine_comm (commented_leaves_located stage) (located_leaves_commented stage) line

theorem replaceLegacyOutput_replaceLegacyOutput (stage : Text) (ls : List Text) :
    replaceLegacyOutput stage (replaceLegacyOutput stage ls) = replaceLegacyOutput stage ls := by
  apply replaceLegacyOutput_of_silent
  intro fragment line member
  rw [replaceLegacyOutput] at member
  split at member
  case isTrue =>
    rcases List.mem_cons.mp member with rfl | rewritten
    · exact (isSettled_declaration stage).redirected fragment
    · obtain ⟨old, _, rfl⟩ := List.mem_map.mp rewritten
      exact not_hasWord_redirectedLine old
  case isFalse quiet =>
    have silent : ∀ line ∈ ls, hasWord legacyBuiltin line = false := by
      simpa [redirectsLegacy, fragment] using quiet
    exact silent line member

/-- The order matters if and only if it decides whether the legacy output is redirected. -/
theorem replaceLegacyOutput_stripDirectives_iff (stage : Text) (ls : List Text) :
    replaceLegacyOutput stage (stripDirectives ls) =
        stripDirectives (replaceLegacyOutput stage ls) ↔
      redirectsLegacy stage (stripDirectives ls) = redirectsLegacy stage ls := by
  have first (rest : List Text) : stripDirectives (legacyOutput.declaration .out :: rest) =
      legacyOutput.declaration .out :: stripDirectives rest := by
    simp [stripDirectives, (isSettled_declaration stage).ordinary]
  have renamed : stripDirectives (ls.map redirectedLine) =
      (stripDirectives ls).map redirectedLine := stripDirectives_map isDirective_redirectedLine ls
  have fewer : redirectsLegacy stage (stripDirectives ls) = true →
      redirectsLegacy stage ls = true := by
    simp only [redirectsLegacy, Bool.and_eq_true, List.any_eq_true]
    rintro ⟨fragment, line, kept, mention⟩
    exact ⟨fragment, line, (List.mem_filter.mp kept).1, mention⟩
  rw [replaceLegacyOutput, replaceLegacyOutput]
  cases after : redirectsLegacy stage (stripDirectives ls) with
  | true =>
    rw [fewer after, if_pos rfl, if_pos rfl, first]
    exact iff_of_true (congrArg _ renamed.symm) rfl
  | false =>
    cases before : redirectsLegacy stage ls with
    | false => simp
    | true =>
      -- One order has a declaration that the other one lacks, so the lists differ in length.
      refine iff_of_false ?_ (by simp)
      intro same
      have lengths := congrArg List.length same
      rw [if_neg (by simp), if_pos rfl, first, List.length_cons] at lengths
      change _ = (stripDirectives (ls.map redirectedLine)).length + 1 at lengths
      rw [renamed, List.length_map] at lengths
      omega

theorem redirectsLegacy_stripDirectives_iff (stage : Text) (ls : List Text) :
    redirectsLegacy stage (stripDirectives ls) = redirectsLegacy stage ls ↔
      (stage = text "fragment" → (∃ line ∈ ls, hasWord legacyBuiltin line = true) →
        ∃ line ∈ ls, isDirective line = false ∧ hasWord legacyBuiltin line = true) := by
  have kept (line : Text) : line ∈ stripDirectives ls ↔ line ∈ ls ∧ isDirective line = false := by
    simp [stripDirectives]
  rw [Bool.eq_iff_iff]
  simp only [redirectsLegacy, Bool.and_eq_true, beq_iff_eq, List.any_eq_true, kept]
  constructor
  · rintro same fragment mention
    obtain ⟨_, line, ⟨inside, ordinary⟩, word⟩ := same.mpr ⟨fragment, mention⟩
    exact ⟨line, inside, ordinary, word⟩
  · intro elsewhere
    constructor
    · rintro ⟨fragment, line, ⟨inside, _⟩, word⟩
      exact ⟨fragment, line, inside, word⟩
    · rintro ⟨fragment, mention⟩
      obtain ⟨line, inside, ordinary, word⟩ := elsewhere fragment mention
      exact ⟨fragment, line, ⟨inside, ordinary⟩, word⟩

theorem bodyLines_bodyLines (stage : Text) (ls : List Text) :
    bodyLines stage (bodyLines stage ls) = bodyLines stage ls :=
  bodyLines_of_isSettled (isSettled_bodyLines stage ls)

theorem bodyLines_of_directive {stage line : Text} (directive : isDirective line = true)
    (front back : List Text) :
    bodyLines stage (front ++ line :: back) = bodyLines stage (front ++ back) := by
  rw [bodyLines, bodyLines, stripDirectives, stripDirectives, List.filter_append,
    List.filter_cons_of_neg (by simp [directive]), ← List.filter_append]

theorem normalize_normalize (stage source : Text) :
    normalize stage (normalize stage source) =
      header ++ text "\n" ++ (unlines (lines header).tail ++ text "\n" ++
        unlines (bodyLines stage (lines source))) := by
  have cut : lines header = headerLines := by decide
  have settled : ∀ line ∈ headerLines.tail ++ readLines (bodyLines stage (lines source)),
      IsSettled stage line := by
    intro line member
    rcases List.mem_append.mp member with ofHeader | ofBody
    · exact isSettled_headerLines stage line ofHeader
    · exact isSettled_readLines stage source line ofBody
  have body : bodyLines stage (lines (normalize stage source)) =
      headerLines.tail ++ readLines (bodyLines stage (lines source)) := by
    rw [lines_normalize]
    exact (bodyLines_of_directive (by decide) [] _).trans (bodyLines_of_isSettled settled)
  have nonempty : readLines (bodyLines stage (lines source)) ≠ [] := splitWhere_ne_nil _ _
  have glue : text "\n" = [newline] := rfl
  rw [normalize, body, cut, unlines_append (by decide) nonempty, readLines, unlines_lines, glue,
    List.append_assoc (unlines headerLines.tail), List.singleton_append]

/-- The order of the passes and their repetition, for all lists of lines; then what a second
normalization does to a text. -/
theorem passes_settle_and_commute (stage : Text) :
    (∀ pass ∈ [stripDirectives, neutralizeUniforms, locateVaryings stage,
        replaceLegacyOutput stage, bodyLines stage], ∀ ls, pass (pass ls) = pass ls) ∧
      Function.Commute stripDirectives neutralizeUniforms ∧
      Function.Commute stripDirectives (locateVaryings stage) ∧
      Function.Commute neutralizeUniforms (locateVaryings stage) ∧
      Function.Commute (replaceLegacyOutput stage) neutralizeUniforms ∧
      Function.Commute (replaceLegacyOutput stage) (locateVaryings stage) ∧
      (∀ ls, (∀ line ∈ ls, isDirective line = true → hasWord (text "gl_FragColor") line = false) →
        replaceLegacyOutput stage (stripDirectives ls) =
          stripDirectives (replaceLegacyOutput stage ls)) ∧
      (∀ ls, replaceLegacyOutput stage (stripDirectives ls) =
          stripDirectives (replaceLegacyOutput stage ls) ↔
        (stage = text "fragment" → (∃ line ∈ ls, hasWord (text "gl_FragColor") line = true) →
          ∃ line ∈ ls, isDirective line = false ∧ hasWord (text "gl_FragColor") line = true)) ∧
      ∀ source, ∃ body, normalize stage source = header ++ text "\n" ++ body ∧
        normalize stage (normalize stage source) =
          header ++ text "\n" ++ (unlines (lines header).tail ++ text "\n" ++ body) := by
  have located := locatedDeclarations_isTame stage
  have commented := commentedDeclarations_isTame
  have boundary (ls : List Text) :=
    (replaceLegacyOutput_stripDirectives_iff stage ls).trans
      (redirectsLegacy_stripDirectives_iff stage ls)
  refine ⟨?_, ?_, ?_, neutralizeUniforms_locateVaryings stage, ?_, ?_, ?_, boundary, ?_⟩
  · simp only [List.forall_mem_cons]
    refine ⟨stripDirectives_stripDirectives, ?_, ?_, replaceLegacyOutput_replaceLegacyOutput stage,
      bodyLines_bodyLines stage, by simp⟩
    · intro ls
      simp only [neutralizeUniforms_eq, map_locateLine_map commented]
    · exact map_locateLine_map located
  · intro ls
    simp only [neutralizeUniforms_eq, stripDirectives_map (isDirective_locateLine commented)]
  · exact stripDirectives_map (isDirective_locateLine located)
  · intro ls
    simp only [neutralizeUniforms_eq, replaceLegacyOutput_map_locateLine commented]
  · exact replaceLegacyOutput_map_locateLine located stage
  · intro ls silent
    apply (boundary ls).mpr
    rintro _ ⟨line, inside, word⟩
    refine ⟨line, inside, ?_, word⟩
    cases directive : isDirective line with
    | false => rfl
    | true => exact absurd word (Bool.eq_false_iff.mp (silent line inside directive))
  · intro source
    exact ⟨unlines (bodyLines stage (lines source)), rfl, normalize_normalize stage source⟩

end CrossShader.Normal
