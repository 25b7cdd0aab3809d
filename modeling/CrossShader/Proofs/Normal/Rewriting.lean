import CrossShader.Proofs.Normal.OnePass
import CrossShader.Proofs.Text.Renaming
import CrossShader.Text.Table

/-!
What the passes do to a single line. Two of them look the stripped line up in a table and write the
entry after the indentation; the last one renames a word. A table is tame if what it looks for and
what it writes is no directive and mentions neither name of the legacy output, and if it does not
look for what it has written. Both tables are.
-/
namespace CrossShader.Normal
open Text

def commentedDeclarations : List (Text × Text) :=
  uniformDeclarations.map fun d => (d, text "// " ++ d)

structure IsTame (table : List (Text × Text)) : Prop where
  ordinary : ∀ entry ∈ table, isDirective entry.1 = false ∧ isDirective entry.2 = false
  noBuiltin : ∀ entry ∈ table,
    hasWord legacyBuiltin entry.1 = false ∧ hasWord legacyBuiltin entry.2 = false
  noLegacyName : ∀ entry ∈ table, hasWord legacyOutput.name entry.1 = false
  done : ∀ entry ∈ table, table.lookup (strip entry.2) = none

/-- The second table leaves alone what the first one looks for and what it writes. -/
def LeavesAlone (first second : List (Text × Text)) : Prop :=
  ∀ entry ∈ first, second.lookup entry.1 = none ∧ second.lookup (strip entry.2) = none

instance (first second : List (Text × Text)) : Decidable (LeavesAlone first second) :=
  inferInstanceAs (Decidable (∀ entry ∈ first, _))

theorem lookup_commented (uniforms : List Text) (key : Text) :
    (uniforms.map fun d => (d, text "// " ++ d)).lookup key =
      if key ∈ uniforms then some (text "// " ++ key) else none := by
  induction uniforms with
  | nil => rfl
  | cons d rest ih =>
    rw [List.map_cons, List.lookup_cons, ih]
    by_cases same : key = d
    · simp [same]
    · simp [same, beq_eq_false_iff_ne.mpr same]

theorem neutralizeLine_eq (line : Text) :
    neutralizeLine line = locateLine commentedDeclarations line := by
  rw [neutralizeLine, locateLine, commentedDeclarations, lookup_commented]
  by_cases uniform : strip line ∈ uniformDeclarations <;> simp [uniform]

theorem lookup_commented_eq_none {key : Text} :
    commentedDeclarations.lookup key = none ↔ key ∉ uniformDeclarations := by
  rw [commentedDeclarations, lookup_commented]
  simp

theorem commentedDeclarations_isTame : IsTame commentedDeclarations := by
  constructor <;> decide

theorem locatedDeclarations_isTame (stage : Text) : IsTame (locatedDeclarations stage) := by
  rcases tables_cases stage with ⟨eq, _⟩ | ⟨eq, _⟩ <;> rw [eq] <;> constructor <;> decide

theorem commented_leaves_located (stage : Text) :
    LeavesAlone commentedDeclarations (locatedDeclarations stage) := by
  rcases tables_cases stage with ⟨eq, _⟩ | ⟨eq, _⟩ <;> rw [eq] <;> decide

theorem located_leaves_commented (stage : Text) :
    LeavesAlone (locatedDeclarations stage) commentedDeclarations := by
  rcases tables_cases stage with ⟨eq, _⟩ | ⟨eq, _⟩ <;> rw [eq] <;> decide

theorem legacyName_isWord : IsWord legacyOutput.name := by
  refine ⟨by decide, ?_⟩
  intro c member
  revert c
  decide

theorem legacyName_ne_builtin : legacyOutput.name ≠ legacyBuiltin := by decide

theorem isDirective_congr {a b : Text} (same : strip a = strip b) :
    isDirective a = isDirective b := by
  rw [isDirective, isDirective, same]

theorem isDirective_strip (line : Text) : isDirective (strip line) = isDirective line :=
  isDirective_congr (strip_strip line)

theorem strip_indent_append (line t : Text) : strip (indent line ++ t) = strip t :=
  strip_blank_append (blank_indent line) t

theorem locateLine_cases (table : List (Text × Text)) (line : Text) :
    (∃ d, (strip line, d) ∈ table ∧ locateLine table line = indent line ++ d) ∨
      (table.lookup (strip line) = none ∧ locateLine table line = line) := by
  cases found : table.lookup (strip line) with
  | none => exact Or.inr ⟨rfl, by rw [locateLine, found]⟩
  | some d => exact Or.inl ⟨d, Table.mem_of_lookup found, by rw [locateLine, found]⟩

theorem locateLine_of_lookup_none {table : List (Text × Text)} {line : Text}
    (absent : table.lookup (strip line) = none) : locateLine table line = line := by
  rw [locateLine, absent]

theorem lookup_strip_locateLine_of_leaves {first second : List (Text × Text)}
    (leaves : LeavesAlone first second) {line : Text}
    (absent : second.lookup (strip line) = none) :
    second.lookup (strip (locateLine first line)) = none := by
  rcases locateLine_cases first line with ⟨d, entry, eq⟩ | ⟨_, eq⟩
  · rw [eq, strip_indent_append]
    exact (leaves _ entry).2
  · rwa [eq]

theorem locateLine_comm {first second : List (Text × Text)} (leaves : LeavesAlone first second)
    (leaves' : LeavesAlone second first) (line : Text) :
    locateLine first (locateLine second line) = locateLine second (locateLine first line) := by
  rcases locateLine_cases first line with ⟨d, entry, eq⟩ | ⟨absent, eq⟩
  · have stays : second.lookup (strip line) = none := (leaves _ entry).1
    have stays' : second.lookup (strip (indent line ++ d)) = none := by
      rw [strip_indent_append]
      exact (leaves _ entry).2
    rw [locateLine_of_lookup_none stays, eq, locateLine_of_lookup_none stays']
  · have absent' := lookup_strip_locateLine_of_leaves leaves' absent
    rw [eq, locateLine_of_lookup_none absent']

section
variable {table : List (Text × Text)} (tame : IsTame table)
include tame

theorem isDirective_locateLine (line : Text) :
    isDirective (locateLine table line) = isDirective line := by
  rcases locateLine_cases table line with ⟨d, entry, eq⟩ | ⟨_, eq⟩
  · obtain ⟨bare, written⟩ := tame.ordinary _ entry
    rw [eq, isDirective_congr (strip_indent_append line d), written, ← isDirective_strip line, bare]
  · rw [eq]

theorem hasWord_locateLine (line : Text) :
    hasWord legacyBuiltin (locateLine table line) = hasWord legacyBuiltin line := by
  rcases locateLine_cases table line with ⟨d, entry, eq⟩ | ⟨_, eq⟩
  · obtain ⟨bare, written⟩ := tame.noBuiltin _ entry
    rw [eq, hasWord_indent_append, written, ← hasWord_strip legacyBuiltin_isWord, bare]
  · rw [eq]

theorem lookup_strip_locateLine (line : Text) :
    table.lookup (strip (locateLine table line)) = none := by
  rcases locateLine_cases table line with ⟨d, entry, eq⟩ | ⟨absent, eq⟩
  · rw [eq, strip_indent_append]
    exact tame.done _ entry
  · rwa [eq]

theorem locateLine_locateLine (line : Text) :
    locateLine table (locateLine table line) = locateLine table line :=
  locateLine_of_lookup_none (lookup_strip_locateLine tame line)

theorem lookup_strip_of_mention {line : Text}
    (mention : hasWord legacyBuiltin line = true ∨ hasWord legacyOutput.name line = true) :
    table.lookup (strip line) = none := by
  cases found : table.lookup (strip line) with
  | none => rfl
  | some d =>
    have entry := Table.mem_of_lookup found
    rcases mention with old | new
    · rw [← hasWord_strip legacyBuiltin_isWord, (tame.noBuiltin _ entry).1] at old
      contradiction
    · rw [← hasWord_strip legacyName_isWord, tame.noLegacyName _ entry] at new
      contradiction

end

/-- The line after the last pass, if that pass redirects at all. -/
def redirectedLine (line : Text) : Text := renameWord legacyBuiltin legacyOutput.name line

theorem redirectedLine_cases (line : Text) :
    (hasWord legacyBuiltin line = false ∧ redirectedLine line = line) ∨
      (hasWord legacyBuiltin line = true ∧
        hasWord legacyOutput.name (redirectedLine line) = true) := by
  cases mention : hasWord legacyBuiltin line with
  | false => exact Or.inl ⟨rfl, renameWord_of_not_hasWord _ mention⟩
  | true =>
    exact Or.inr ⟨rfl, hasWord_renameWord_new legacyBuiltin_isWord legacyName_isWord mention⟩

theorem not_hasWord_redirectedLine (line : Text) :
    hasWord legacyBuiltin (redirectedLine line) = false :=
  not_hasWord_renameWord legacyBuiltin_isWord legacyName_isWord legacyName_ne_builtin line

/-- Neither the old name nor the new one can begin inside the words of a directive. -/
theorem isDirective_redirectedLine (line : Text) :
    isDirective (redirectedLine line) = isDirective line := by
  have version : ∀ c ∈ text "#version", c ∉ legacyBuiltin.head? ∧ c ∉ legacyOutput.name.head? := by
    decide
  have precision : ∀ c ∈ text "precision ",
      c ∉ legacyBuiltin.head? ∧ c ∉ legacyOutput.name.head? := by
    decide
  have nonempty : legacyBuiltin ≠ [] ∧ legacyOutput.name ≠ [] :=
    ⟨legacyBuiltin_isWord.1, legacyName_isWord.1⟩
  rw [isDirective, isDirective, redirectedLine, strip_renameWord legacyBuiltin_isWord
    legacyName_isWord, Bool.eq_iff_iff]
  simp only [Bool.or_eq_true, List.isPrefixOf_iff_prefix, isPrefix_renameWord nonempty version,
    isPrefix_renameWord nonempty precision]

section
variable {table : List (Text × Text)} (tame : IsTame table)
include tame

theorem lookup_strip_redirectedLine {line : Text} (absent : table.lookup (strip line) = none) :
    table.lookup (strip (redirectedLine line)) = none := by
  rcases redirectedLine_cases line with ⟨_, eq⟩ | ⟨_, mention⟩
  · rwa [eq]
  · exact lookup_strip_of_mention tame (Or.inr mention)

theorem locateLine_redirectedLine (line : Text) :
    locateLine table (redirectedLine line) = redirectedLine (locateLine table line) := by
  rcases redirectedLine_cases line with ⟨silent, eq⟩ | ⟨old, new⟩
  · have silent' := (hasWord_locateLine tame line).trans silent
    rw [eq, redirectedLine, renameWord_of_not_hasWord _ silent']
  · rw [locateLine_of_lookup_none (lookup_strip_of_mention tame (Or.inr new)),
      locateLine_of_lookup_none (lookup_strip_of_mention tame (Or.inl old))]

end

end CrossShader.Normal
