import CrossShader.Normal.Source
import CrossShader.Proofs.Text.WholeWord

/-!
The four passes as one. What becomes of a line depends on that line and the stage alone, and the one
line that may be put in front depends on the lines as they were written. No pass makes, spoils or
hides a match of a later one.
-/
namespace CrossShader.Normal
open Text

/-- The lines that are neither version nor precision directives, as they were written. -/
def keptLines (source : Text) : List Text :=
  (lines source).filter fun line =>
    ¬ text "#version" <+: strip line ∧ ¬ text "precision " <+: strip line

/-- What a shader writes of the uniforms that the header provides. -/
def uniformLines : List Text := [text "uniform float uTime;", text "uniform vec2 uResolution;"]

def varyingKeyword (stage : Text) : Text :=
  if stage = text "vertex" then text "out" else text "in"

/-- The ten bare interface declarations, each with the located one that takes its place. -/
def interfaceLines (stage : Text) : List (Text × Text) :=
  [(text "in vec2 vUv;", text "layout(location = 0) in vec2 vUv;"),
    (text "out vec2 vUv;", text "layout(location = 0) out vec2 vUv;"),
    (text "varying vec2 vUv;",
      text "layout(location = 0) " ++ varyingKeyword stage ++ text " vec2 vUv;"),
    (text "in vec3 vNormal;", text "layout(location = 1) in vec3 vNormal;"),
    (text "out vec3 vNormal;", text "layout(location = 1) out vec3 vNormal;"),
    (text "varying vec3 vNormal;",
      text "layout(location = 1) " ++ varyingKeyword stage ++ text " vec3 vNormal;"),
    (text "in vec3 vViewPosition;", text "layout(location = 2) in vec3 vViewPosition;"),
    (text "out vec3 vViewPosition;", text "layout(location = 2) out vec3 vViewPosition;"),
    (text "varying vec3 vViewPosition;",
      text "layout(location = 2) " ++ varyingKeyword stage ++ text " vec3 vViewPosition;"),
    (text "out vec4 fragColor;", text "layout(location = 0) out vec4 fragColor;")]

/-- What becomes of a kept line, whatever stands around it. -/
def rewrittenLine (stage line : Text) : Text :=
  if strip line ∈ uniformLines then indent line ++ text "// " ++ strip line
  else match (interfaceLines stage).lookup (strip line) with
    | some declaration => indent line ++ declaration
    | none =>
      if stage = text "fragment" then renameWord (text "gl_FragColor") (text "legacyFragColor") line
      else line

def insertedLines (stage : Text) (kept : List Text) : List Text :=
  if stage = text "fragment" ∧ kept.any (hasWord (text "gl_FragColor")) then
    [text "layout(location = 0) out vec4 legacyFragColor;"]
  else []

theorem stripDirectives_lines (source : Text) :
    stripDirectives (lines source) = keptLines source := by
  apply List.filter_congr
  intro line _
  rw [isDirective, Bool.eq_iff_iff]
  simp only [Bool.not_eq_true', decide_eq_true_eq, ← Bool.not_eq_true, Bool.or_eq_true, not_or,
    List.isPrefixOf_iff_prefix]

theorem legacyBuiltin_isWord : IsWord legacyBuiltin := by
  refine ⟨by decide, ?_⟩
  intro c member
  revert c
  decide

theorem hasWord_indent_append (line t : Text) :
    hasWord legacyBuiltin (indent line ++ t) = hasWord legacyBuiltin t :=
  hasWord_wordless_append legacyBuiltin_isWord (wordless_of_blank (blank_indent line)) t

theorem lacks_builtin {t : Text} (absent : 70 ∉ t) : hasWord legacyBuiltin t = false :=
  not_hasWord_of_absent (show 70 ∈ legacyBuiltin by decide) absent

theorem uniforms_lack_builtin :
    ∀ d ∈ uniformDeclarations, hasWord legacyBuiltin d = false ∧
      hasWord legacyBuiltin (text "// " ++ d) = false := by
  have absent : ∀ d ∈ uniformDeclarations, 70 ∉ d ∧ 70 ∉ text "// " ++ d := by decide
  intro d listed
  exact ⟨lacks_builtin (absent d listed).1, lacks_builtin (absent d listed).2⟩

theorem uniformDeclarations_eq : uniformDeclarations = uniformLines := by decide

/-- The stage matters to the tables only in being the vertex stage or not. -/
theorem tables_cases (stage : Text) :
    (locatedDeclarations stage = locatedDeclarations (text "vertex") ∧
        interfaceLines stage = interfaceLines (text "vertex")) ∨
      (locatedDeclarations stage = locatedDeclarations (text "fragment") ∧
        interfaceLines stage = interfaceLines (text "fragment")) := by
  by_cases vertex : stage = text "vertex"
  · exact Or.inl ⟨by rw [vertex], by rw [vertex]⟩
  · have other : text "fragment" ≠ text "vertex" := by decide
    refine Or.inr ⟨?_, ?_⟩
    · simp [locatedDeclarations, Qualifier.all, Qualifier.direction, vertex, other]
    · simp [interfaceLines, varyingKeyword, vertex, other]

theorem locatedDeclarations_eq (stage : Text) :
    locatedDeclarations stage = interfaceLines stage := by
  rcases tables_cases stage with ⟨located, listed⟩ | ⟨located, listed⟩ <;>
    rw [located, listed] <;> decide

theorem rewrittenLine_eq (stage line : Text) :
    rewrittenLine stage line =
      if strip line ∈ uniformDeclarations then indent line ++ text "// " ++ strip line
      else match (locatedDeclarations stage).lookup (strip line) with
        | some declaration => indent line ++ declaration
        | none =>
          if stage = text "fragment" then renameWord legacyBuiltin legacyOutput.name line
          else line := by
  rw [uniformDeclarations_eq, locatedDeclarations_eq]
  rfl

theorem located_lack_builtin (stage : Text) :
    ∀ entry ∈ locatedDeclarations stage, hasWord legacyBuiltin entry.1 = false ∧
      hasWord legacyBuiltin entry.2 = false := by
  have absent : ∀ entry ∈ locatedDeclarations stage, 70 ∉ entry.1 ∧ 70 ∉ entry.2 := by
    rcases tables_cases stage with ⟨eq, _⟩ | ⟨eq, _⟩ <;> rw [eq] <;> decide
  intro entry listed
  exact ⟨lacks_builtin (absent entry listed).1, lacks_builtin (absent entry listed).2⟩

theorem commented_not_located (stage : Text) :
    ∀ d ∈ uniformDeclarations,
      (locatedDeclarations stage).lookup (strip (text "// " ++ d)) = none := by
  rcases tables_cases stage with ⟨eq, _⟩ | ⟨eq, _⟩ <;> rw [eq] <;> decide

theorem lookup_lacks_builtin {stage key declaration : Text}
    (found : (locatedDeclarations stage).lookup key = some declaration) :
    hasWord legacyBuiltin key = false ∧ hasWord legacyBuiltin declaration = false := by
  obtain ⟨front, rest, eq, _⟩ := List.lookup_eq_some_iff.mp found
  exact located_lack_builtin stage (key, declaration) (by simp [eq])

/-- The lines as the second and third pass leave them. -/
def declaredLine (stage line : Text) : Text :=
  locateLine (locatedDeclarations stage) (neutralizeLine line)

theorem declaredLine_of_uniform (stage : Text) {line : Text}
    (uniform : strip line ∈ uniformDeclarations) :
    declaredLine stage line = indent line ++ (text "// " ++ strip line) := by
  have neutral : neutralizeLine line = indent line ++ (text "// " ++ strip line) := by
    simp [neutralizeLine, uniform]
  have unlocated : (locatedDeclarations stage).lookup
      (strip (indent line ++ (text "// " ++ strip line))) = none := by
    rw [strip_blank_append (blank_indent line)]
    exact commented_not_located stage _ uniform
  rw [declaredLine, neutral, locateLine, unlocated]

theorem declaredLine_of_located {stage line declaration : Text}
    (other : strip line ∉ uniformDeclarations)
    (found : (locatedDeclarations stage).lookup (strip line) = some declaration) :
    declaredLine stage line = indent line ++ declaration := by
  simp [declaredLine, neutralizeLine, other, locateLine, found]

theorem declaredLine_of_neither {stage line : Text} (other : strip line ∉ uniformDeclarations)
    (absent : (locatedDeclarations stage).lookup (strip line) = none) :
    declaredLine stage line = line := by
  simp only [declaredLine, neutralizeLine, List.contains_iff_mem, other, ↓reduceIte, locateLine,
    absent]

theorem hasWord_declaredLine (stage line : Text) :
    hasWord legacyBuiltin (declaredLine stage line) = hasWord legacyBuiltin line := by
  by_cases uniform : strip line ∈ uniformDeclarations
  · obtain ⟨bare, commented⟩ := uniforms_lack_builtin _ uniform
    rw [declaredLine_of_uniform stage uniform, hasWord_indent_append, commented,
      ← hasWord_strip legacyBuiltin_isWord, bare]
  · cases found : (locatedDeclarations stage).lookup (strip line) with
    | none => rw [declaredLine_of_neither uniform found]
    | some declaration =>
      obtain ⟨bare, located⟩ := lookup_lacks_builtin found
      rw [declaredLine_of_located uniform found, hasWord_indent_append, located,
        ← hasWord_strip legacyBuiltin_isWord, bare]

theorem rename_declaredLine (line : Text) :
    renameWord legacyBuiltin legacyOutput.name (declaredLine (text "fragment") line) =
      rewrittenLine (text "fragment") line := by
  by_cases uniform : strip line ∈ uniformDeclarations
  · obtain ⟨_, commented⟩ := uniforms_lack_builtin _ uniform
    have silent := (hasWord_indent_append line (text "// " ++ strip line)).trans commented
    rw [declaredLine_of_uniform _ uniform, renameWord_of_not_hasWord _ silent]
    simp [rewrittenLine_eq, uniform]
  · cases found : (locatedDeclarations (text "fragment")).lookup (strip line) with
    | none =>
      rw [declaredLine_of_neither uniform found]
      simp [rewrittenLine_eq, uniform, found]
    | some declaration =>
      obtain ⟨_, located⟩ := lookup_lacks_builtin found
      have silent := (hasWord_indent_append line declaration).trans located
      rw [declaredLine_of_located uniform found, renameWord_of_not_hasWord _ silent]
      simp [rewrittenLine_eq, uniform, found]

theorem declaredLine_eq_rewrittenLine {stage line : Text}
    (quiet : stage = text "fragment" → hasWord legacyBuiltin line = false) :
    declaredLine stage line = rewrittenLine stage line := by
  by_cases fragment : stage = text "fragment"
  · subst fragment
    have silent : hasWord legacyBuiltin (declaredLine (text "fragment") line) = false := by
      rw [hasWord_declaredLine, quiet rfl]
    rw [← rename_declaredLine, renameWord_of_not_hasWord _ silent]
  · by_cases uniform : strip line ∈ uniformDeclarations
    · rw [declaredLine_of_uniform stage uniform]
      simp [rewrittenLine_eq, uniform]
    · cases found : (locatedDeclarations stage).lookup (strip line) with
      | none =>
        rw [declaredLine_of_neither uniform found]
        simp [rewrittenLine_eq, uniform, found, fragment]
      | some declaration =>
        rw [declaredLine_of_located uniform found]
        simp [rewrittenLine_eq, uniform, found]

theorem redirectsLegacy_map_declaredLine (stage : Text) (kept : List Text) :
    redirectsLegacy stage (kept.map (declaredLine stage)) = redirectsLegacy stage kept := by
  rw [redirectsLegacy, redirectsLegacy, List.any_map]
  congr 2
  funext line
  exact hasWord_declaredLine stage line

theorem replaceLegacyOutput_declared (stage : Text) (kept : List Text) :
    replaceLegacyOutput stage (kept.map (declaredLine stage)) =
      insertedLines stage kept ++ kept.map (rewrittenLine stage) := by
  rw [replaceLegacyOutput, redirectsLegacy_map_declaredLine]
  by_cases redirected : redirectsLegacy stage kept = true
  · obtain ⟨fragment, mentioned⟩ : stage = text "fragment" ∧
        kept.any (hasWord legacyBuiltin) = true := by
      simpa [redirectsLegacy] using redirected
    subst fragment
    have declared : legacyOutput.declaration .out =
        text "layout(location = 0) out vec4 legacyFragColor;" := by decide
    have inserted : insertedLines (text "fragment") kept =
        [legacyOutput.declaration .out] := by
      rw [insertedLines, declared]
      exact if_pos ⟨rfl, mentioned⟩
    rw [if_pos redirected, inserted, List.map_map, List.singleton_append]
    congr 1
    apply List.map_congr_left
    intro line _
    exact rename_declaredLine line
  · have quiet : stage = text "fragment" → ∀ line ∈ kept, hasWord legacyBuiltin line = false := by
      simpa [redirectsLegacy] using redirected
    have inserted : insertedLines stage kept = [] := by
      apply if_neg
      intro ⟨fragment, mentioned⟩
      exact redirected (by simp [redirectsLegacy, fragment, legacyBuiltin, mentioned])
    rw [if_neg redirected, inserted, List.nil_append]
    apply List.map_congr_left
    intro line member
    exact declaredLine_eq_rewrittenLine fun fragment => quiet fragment line member

theorem bodyLines_eq (stage source : Text) :
    bodyLines stage (lines source) =
      insertedLines stage (keptLines source) ++ (keptLines source).map (rewrittenLine stage) := by
  rw [bodyLines, stripDirectives_lines, neutralizeUniforms, locateVaryings, List.map_map]
  exact replaceLegacyOutput_declared stage (keptLines source)

/-- The four passes in a row are one pass over the lines that are kept. -/
theorem normalize_is_one_pass (stage source : Text) :
    normalize stage source = header ++ text "\n" ++
      unlines (insertedLines stage (keptLines source) ++
        (keptLines source).map (rewrittenLine stage)) := by
  rw [normalize, bodyLines_eq]

end CrossShader.Normal
