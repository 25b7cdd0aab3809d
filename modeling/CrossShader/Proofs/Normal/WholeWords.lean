import CrossShader.Proofs.Normal.Form

/-!
The last pass as a rewriting of runs. Every text falls in one way into runs of word characters and
of other characters. The pass exchanges the runs that are the old name and no others, so nothing
else moves, and a line grows by the same amount for each of them.
-/
namespace CrossShader.Text

/-- The text, written as runs of word characters and runs of other characters in turn. -/
def FallsInto (t : Text) (rs : List Text) : Prop :=
  (∃ kind, Alternating kind rs) ∧ rs.flatten = t

theorem fallsInto_iff {t : Text} {rs : List Text} : FallsInto t rs ↔ runs t = rs := by
  constructor
  · rintro ⟨⟨kind, alternating⟩, rfl⟩
    exact runs_flatten alternating
  · rintro rfl
    exact ⟨runs_alternating t, flatten_runs t⟩

theorem existsUnique_fallsInto (t : Text) : ∃! rs, FallsInto t rs :=
  ⟨runs t, fallsInto_iff.mpr rfl, fun _ falls => (fallsInto_iff.mp falls).symm⟩

theorem length_flatten_renamed (word new : Text) (rs : List Text) :
    (rs.map (renamedRun word new)).flatten.length + word.length * rs.count word =
      rs.flatten.length + new.length * rs.count word := by
  induction rs with
  | nil => rfl
  | cons r rest ih =>
    simp only [List.map_cons, List.flatten_cons, List.length_append]
    by_cases same : r = word
    · subst same
      rw [renamedRun, if_pos rfl, List.count_cons_self, Nat.mul_add_one, Nat.mul_add_one]
      omega
    · rw [renamedRun, if_neg same, List.count_cons_of_ne same]
      omega

end CrossShader.Text

namespace CrossShader.Normal
open Text

/-- The second line has the runs of the first in their places, but for those that are the old name,
and is longer by three characters for each of these. -/
def RenamesRuns (line renamed : Text) : Prop :=
  ∀ rs, FallsInto line rs →
    FallsInto renamed (rs.map fun r =>
      if r = text "gl_FragColor" then text "legacyFragColor" else r) ∧
      renamed.length = line.length + 3 * rs.count (text "gl_FragColor")

theorem renamesRuns_redirectedLine (line : Text) : RenamesRuns line (redirectedLine line) := by
  intro rs falls
  have pieces := fallsInto_iff.mp falls
  have renamed : runs (redirectedLine line) =
      rs.map (renamedRun legacyBuiltin legacyOutput.name) := by
    rw [redirectedLine, runs_renameWord legacyBuiltin_isWord legacyName_isWord, pieces]
  refine ⟨fallsInto_iff.mpr renamed, ?_⟩
  have lengths : legacyBuiltin.length = 12 ∧ legacyOutput.name.length = 15 := by decide
  have grown := length_flatten_renamed legacyBuiltin legacyOutput.name rs
  rw [← renamed, flatten_runs, falls.2, lengths.1, lengths.2] at grown
  change _ = line.length + 3 * rs.count legacyBuiltin
  omega

def Mentions (line : Text) : Prop := ∃ rs, FallsInto line rs ∧ text "gl_FragColor" ∈ rs

theorem mentions_iff (line : Text) : Mentions line ↔ hasWord legacyBuiltin line = true := by
  rw [hasWord_iff_mem_runs legacyBuiltin_isWord]
  constructor
  · rintro ⟨rs, falls, listed⟩
    rwa [fallsInto_iff.mp falls]
  · intro listed
    exact ⟨runs line, fallsInto_iff.mpr rfl, listed⟩

theorem not_mentions_redirectedLine (line : Text) : ¬ Mentions (redirectedLine line) := by
  rw [mentions_iff, not_hasWord_redirectedLine]
  decide

/-- A line that does not mention the old name is its own renamed line, so all lines may be renamed
whether the pass redirects or not. -/
theorem replaceLegacyOutput_fragment (ls : List Text) :
    ∃ front, replaceLegacyOutput (text "fragment") ls = front ++ ls.map redirectedLine ∧
      ((∃ line ∈ ls, Mentions line) ∧ front = [legacyOutput.declaration .out] ∨
        (∀ line ∈ ls, ¬ Mentions line) ∧ front = []) := by
  by_cases mentioned : ∃ line ∈ ls, Mentions line
  · refine ⟨[legacyOutput.declaration .out], ?_, .inl ⟨mentioned, rfl⟩⟩
    have redirects : redirectsLegacy (text "fragment") ls = true := by
      simpa [redirectsLegacy, mentions_iff] using mentioned
    rw [replaceLegacyOutput, if_pos redirects]
    rfl
  · have silent : ∀ line ∈ ls, ¬ Mentions line :=
      fun line listed mentions => mentioned ⟨line, listed, mentions⟩
    have unnamed : ∀ line ∈ ls, hasWord legacyBuiltin line = false := by
      intro line listed
      simpa [mentions_iff] using silent line listed
    have kept : ls.map redirectedLine = ls.map id :=
      List.map_congr_left fun line listed => renameWord_of_not_hasWord _ (unnamed line listed)
    refine ⟨[], ?_, .inr ⟨silent, rfl⟩⟩
    rw [kept, List.map_id, List.nil_append]
    exact replaceLegacyOutput_of_silent fun _ => unnamed

/-- In the fragment stage the runs that are the builtin's name are renamed, wherever they stand, and
nothing else is touched. The declaration comes in front exactly if there is such a run, and none is
left. -/
theorem replacement_renames_word_runs (ls : List Text) :
    (∀ line, ∃! rs, FallsInto line rs) ∧
      (∃ front renamed, replaceLegacyOutput (text "fragment") ls = front ++ renamed ∧
        List.Forall₂ RenamesRuns ls renamed ∧
        ((∃ line ∈ ls, Mentions line) ∧
            front = [text "layout(location = 0) out vec4 legacyFragColor;"] ∨
          (∀ line ∈ ls, ¬ Mentions line) ∧ front = [])) ∧
      ∀ line ∈ replaceLegacyOutput (text "fragment") ls, ¬ Mentions line := by
  have declared : legacyOutput.declaration .out =
      text "layout(location = 0) out vec4 legacyFragColor;" := by decide
  obtain ⟨front, replaced, either⟩ := replaceLegacyOutput_fragment ls
  rw [declared] at either
  refine ⟨existsUnique_fallsInto, ⟨front, _, replaced, ?_, either⟩, ?_⟩
  · rw [List.forall₂_map_right_iff, List.forall₂_same]
    exact fun line _ => renamesRuns_redirectedLine line
  · rw [replaced]
    intro line listed
    rcases List.mem_append.mp listed with inFront | inRenamed
    · rcases either with ⟨_, rfl⟩ | ⟨_, rfl⟩
      · rw [List.mem_singleton.mp inFront, mentions_iff]
        decide
      · simp at inFront
    · obtain ⟨old, _, rfl⟩ := List.mem_map.mp inRenamed
      exact not_mentions_redirectedLine old

-- A longer name keeps its letters; a combining mark belongs to no word and ends one.
example : replaceLegacyOutput (text "fragment") [text "my_gl_FragColor = gl_FragColor\u0301;"] =
    [text "layout(location = 0) out vec4 legacyFragColor;",
      text "my_gl_FragColor = legacyFragColor\u0301;"] := by
  decide +kernel

end CrossShader.Normal
