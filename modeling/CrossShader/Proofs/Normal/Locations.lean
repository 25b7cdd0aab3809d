import CrossShader.Proofs.Normal.Form
import CrossShader.Proofs.Text.Digits

/-!
The locations that the normalizer gives out. A declaration can be read in one way only, and every
line that the normalizer writes is one of eight declarations. Inputs never share a location. Among
the outputs three do: the first varying, the host output and the legacy output are all written at
location 0, so a shader that has two of them gets two outputs at one place.
-/
namespace CrossShader

namespace Text

theorem append_cons_inj {c : CodePoint} {a a' b b' : Text} (absent : c ∉ a) (absent' : c ∉ a')
    (same : a ++ c :: b = a' ++ c :: b') : a = a' ∧ b = b' := by
  induction a generalizing a' with
  | nil =>
    cases a' with
    | nil => exact ⟨rfl, (List.cons.inj same).2⟩
    | cons x rest =>
      obtain ⟨rfl, _⟩ := List.cons.inj same
      exact absurd List.mem_cons_self absent'
  | cons x rest ih =>
    cases a' with
    | nil =>
      obtain ⟨rfl, _⟩ := List.cons.inj same
      exact absurd List.mem_cons_self absent
    | cons y rest' =>
      obtain ⟨rfl, tail⟩ := List.cons.inj same
      obtain ⟨rfl, rfl⟩ := ih (List.not_mem_of_not_mem_cons absent)
        (List.not_mem_of_not_mem_cons absent') tail
      exact ⟨rfl, rfl⟩

end Text

namespace Normal
open Text

/-- The lines of a normalized body that the normalizer has written: the inserted output and what
takes the place of bare host declarations. -/
def writtenLines (stage source : Text) : List Text :=
  insertedLines stage (keptLines source) ++
    ((keptLines source).filter fun line => ((interfaceLines stage).lookup (strip line)).isSome).map
      (rewrittenLine stage)

/-- Blanks apart, the line declares the variable in this direction and nothing else. -/
def Declares (line : Text) (d : Direction) (v : Located) : Prop := strip line = v.declaration d

instance (line : Text) (d : Direction) (v : Located) : Decidable (Declares line d v) :=
  inferInstanceAs (Decidable (_ = _))

/-- No two variables that the normalizer declares in one direction share a location. -/
def LocationsApart (stage source : Text) : Prop :=
  ∀ line ∈ writtenLines stage source, ∀ line' ∈ writtenLines stage source, ∀ d v v',
    Declares line d v → Declares line' d v' → v.name ≠ v'.name → v.location ≠ v'.location

def ownDeclarations : List (Direction × Located) :=
  hostVaryings.flatMap (fun v => [(.into, v), (.out, v)]) ++
    [(.out, hostOutput), (.out, legacyOutput)]

def firstOutputs : List Text := [text "vUv", text "fragColor", text "legacyFragColor"]

theorem declaration_injective {d d' : Direction} {v v' : Located} (type : 32 ∉ v.type)
    (name : 32 ∉ v.name) (same : v.declaration d = v'.declaration d') : d = d' ∧ v = v' := by
  have closing (w : Located) : 41 ∉ ofNat w.location := by
    intro member
    exact absurd (digit_of_mem_ofNat member).1 (by decide)
  have spaceless (e : Direction) : 32 ∉ e.keyword := by cases e <;> decide
  have spelled (e : Direction) (w : Located) : w.declaration e = text "layout(location = " ++
      (ofNat w.location ++ 41 :: 32 :: (e.keyword ++ 32 :: (w.type ++ 32 :: (w.name ++ [59])))) := by
    simp [Located.declaration, Variable.declaration, text]
  rw [spelled, spelled, List.append_cancel_left_eq] at same
  obtain ⟨location, rest⟩ := append_cons_inj (closing v) (closing v') same
  obtain ⟨keyword, rest⟩ := append_cons_inj (spaceless d) (spaceless d') (List.cons.inj rest).2
  have wordEnd : 32 ∉ v.name ++ [59] := by simp [name]
  obtain ⟨sameType, _, sameName⟩ := (List.append_cons_inj_of_notMem type wordEnd).mp rest
  refine ⟨?_, ?_⟩
  · cases d with
    | into =>
      cases d' with
      | into => rfl
      | out => exact absurd keyword (by decide)
    | out =>
      cases d' with
      | into => exact absurd keyword (by decide)
      | out => rfl
  · obtain ⟨⟨t, n⟩, k⟩ := v
    obtain ⟨⟨t', n'⟩, k'⟩ := v'
    obtain rfl : t = t' := sameType
    obtain rfl : n = n' := List.append_cancel_right sameName
    obtain rfl : k = k' := ofNat_injective location
    rfl

theorem own_are_words : ∀ own ∈ ownDeclarations, 32 ∉ own.2.type ∧ 32 ∉ own.2.name := by decide

theorem interface_entries (stage : Text) :
    ∀ entry ∈ interfaceLines stage, entry.1 ∉ uniformLines ∧
      ∃ own ∈ ownDeclarations, strip entry.2 = own.2.declaration own.1 := by
  rcases tables_cases stage with ⟨_, eq⟩ | ⟨_, eq⟩ <;> rw [eq] <;> decide

theorem inserted_is_own {stage : Text} {kept : List Text} :
    ∀ line ∈ insertedLines stage kept, Declares line .out legacyOutput := by
  have written : strip (text "layout(location = 0) out vec4 legacyFragColor;") =
      legacyOutput.declaration .out := by decide
  intro line member
  rw [insertedLines] at member
  split at member
  · rw [List.mem_singleton.mp member]
    exact written
  · simp at member

theorem written_is_own (stage source : Text) :
    ∀ line ∈ writtenLines stage source, ∃ own ∈ ownDeclarations, Declares line own.1 own.2 := by
  intro line member
  rcases List.mem_append.mp member with front | rewritten
  · exact ⟨(.out, legacyOutput), by decide, inserted_is_own line front⟩
  · obtain ⟨old, chosen, rfl⟩ := List.mem_map.mp rewritten
    obtain ⟨declaration, found⟩ := Option.isSome_iff_exists.mp (List.mem_filter.mp chosen).2
    obtain ⟨noUniform, own, ours, stated⟩ :=
      interface_entries stage _ (Table.mem_of_lookup found)
    refine ⟨own, ours, ?_⟩
    rw [Declares, rewrittenLine, if_neg noUniform, found, strip_indent_append]
    exact stated

/-- Two declarations of the normalizer in one direction share a location only among the first
outputs. -/
theorem own_locations :
    ∀ a ∈ ownDeclarations, ∀ b ∈ ownDeclarations, a.1 = b.1 → a.2.name ≠ b.2.name →
      (a.2.location = b.2.location ↔
        a.1 = .out ∧ a.2.name ∈ firstOutputs ∧ b.2.name ∈ firstOutputs) := by
  decide

theorem declares_one_way {line : Text} {own : Direction × Located} (ours : own ∈ ownDeclarations)
    (stated : Declares line own.1 own.2) {d : Direction} {v : Located} (reads : Declares line d v) :
    own = (d, v) := by
  obtain ⟨type, name⟩ := own_are_words own ours
  obtain ⟨direction, declared⟩ := declaration_injective type name (stated.symm.trans reads)
  exact Prod.ext direction declared

theorem writtenLines_sublist (stage source : Text) :
    List.Sublist (writtenLines stage source) (lines (normalize stage source)) := by
  have inBody : List.Sublist (writtenLines stage source) (bodyLines stage (lines source)) := by
    rw [bodyLines_eq]
    exact List.Sublist.append (List.Sublist.refl _) (List.filter_sublist.map _)
  rw [lines_normalize, readLines_bodyLines]
  apply List.Sublist.trans _ (List.sublist_append_right headerLines _)
  split
  case isTrue empty =>
    rw [empty] at inBody
    rw [List.sublist_nil.mp inBody]
    exact List.nil_sublist _
  case isFalse => exact inBody

/-- Every line that the normalizer writes declares one variable in one direction. Two of them in one
direction have different locations, unless they are two of the first outputs. -/
theorem written_locations (stage source : Text) :
    List.Sublist (writtenLines stage source) (lines (normalize stage source)) ∧
      (∀ line ∈ writtenLines stage source, ∃ d v, Declares line d v ∧
        ∀ d' v', Declares line d' v' → d' = d ∧ v' = v) ∧
      ∀ line ∈ writtenLines stage source, ∀ line' ∈ writtenLines stage source, ∀ d v v',
        Declares line d v → Declares line' d v' → v.name ≠ v'.name →
          (v.location = v'.location ↔
            d = .out ∧ v.name ∈ firstOutputs ∧ v'.name ∈ firstOutputs) := by
  have own := written_is_own stage source
  refine ⟨writtenLines_sublist stage source, ?_, ?_⟩
  · intro line member
    obtain ⟨⟨d, v⟩, ours, stated⟩ := own line member
    refine ⟨d, v, stated, ?_⟩
    intro d' v' reads
    obtain ⟨rfl, rfl⟩ := Prod.mk.inj (declares_one_way ours stated reads)
    exact ⟨rfl, rfl⟩
  · intro line member line' member' d v v' reads reads' differ
    obtain ⟨a, ours, stated⟩ := own line member
    obtain ⟨a', ours', stated'⟩ := own line' member'
    obtain rfl := declares_one_way ours stated reads
    obtain rfl := declares_one_way ours' stated' reads'
    exact own_locations _ ours _ ours' rfl differ

theorem vertex_outputs_are_located :
    let source := text "varying vec2 vUv;\nvarying vec3 vNormal;\nout vec4 fragColor;"
    ∃ uv ∈ writtenLines (text "vertex") source, ∃ normal ∈ writtenLines (text "vertex") source,
      ∃ color ∈ writtenLines (text "vertex") source, ∃ v w,
        Declares uv .out v ∧ Declares normal .out w ∧ Declares color .out hostOutput ∧
          v.location ≠ w.location ∧ v.location = hostOutput.location := by
  intro source
  have written : writtenLines (text "vertex") source =
      [text "layout(location = 0) out vec2 vUv;", text "layout(location = 1) out vec3 vNormal;",
        text "layout(location = 0) out vec4 fragColor;"] := by decide
  obtain ⟨_, _, locations⟩ := written_locations (text "vertex") source
  rw [written] at locations
  rw [written]
  have uv : Declares (text "layout(location = 0) out vec2 vUv;") .out
      ⟨⟨text "vec2", text "vUv"⟩, 0⟩ := by decide
  have normal : Declares (text "layout(location = 1) out vec3 vNormal;") .out
      ⟨⟨text "vec3", text "vNormal"⟩, 1⟩ := by decide
  have color : Declares (text "layout(location = 0) out vec4 fragColor;") .out hostOutput := by
    decide
  refine ⟨_, by simp, _, by simp, _, by simp, _, _, uv, normal, color, ?_, ?_⟩
  · rw [Ne, locations _ (by simp) _ (by simp) _ _ _ uv normal (by decide)]
    decide
  · exact (locations _ (by simp) _ (by simp) _ _ _ uv color (by decide)).mpr (by decide)

/-- The host output and the legacy output of one shader come to lie at one place. -/
theorem outputs_collide :
    ¬ LocationsApart (text "fragment")
      (text "out vec4 fragColor;\nvoid main() \x7b gl_FragColor = vec4(1.0); \x7d") := by
  have written : writtenLines (text "fragment")
      (text "out vec4 fragColor;\nvoid main() \x7b gl_FragColor = vec4(1.0); \x7d") =
        [legacyOutput.declaration .out, hostOutput.declaration .out] := by decide
  have tight (v : Located) (ours : v ∈ [legacyOutput, hostOutput]) :
      Declares (v.declaration .out) .out v := by
    revert v
    decide
  intro apart
  rw [LocationsApart, written] at apart
  exact apart _ List.mem_cons_self _ (List.mem_cons_of_mem _ List.mem_cons_self) _ _ _
    (tight legacyOutput (by decide)) (tight hostOutput (by decide)) (by decide) rfl

end Normal
end CrossShader
