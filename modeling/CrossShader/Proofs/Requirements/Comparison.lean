import CrossShader.Proofs.Text.Order
import CrossShader.Requirements

/-!
Requirement lists as sets. A check compares what a project asks for with what the file pins, text by
text without the blanks around it, and tells each difference once and in order. How often an entry
or a line stands, where it stands, and which of the lists that count an entry is from make no
difference, neither to a check nor to the file that is written.
-/
namespace CrossShader.Requirements
open Text

/-- An entry that counts at run time, as it is written. -/
inductive Project.Lists (p : Project) (entry : Text) : Prop where
  | base (listed : entry ∈ p.dependencies)
  | extra {name entries} (counts : name = text "cli" ∨ name = text "server")
      (kept : p.extras.get? name = some entries) (listed : entry ∈ entries)

def Project.Declares (p : Project) (r : Text) : Prop :=
  r ≠ [] ∧ ∃ entry, p.Lists entry ∧ strip entry = r

def fileLines : Option Text → List Text
  | none => []
  | some content => wideLines (unifyLineEnds content)

def Pins (pinned : Option Text) (r : Text) : Prop :=
  r ≠ [] ∧ ∃ line ∈ fileLines pinned, strip (uncommented line) = r

theorem mem_tidied {ts : List Text} {r : Text} :
    r ∈ tidied ts ↔ r ≠ [] ∧ ∃ t ∈ ts, strip t = r := by
  unfold tidied
  rw [mem_sorted, List.mem_filter, List.mem_map, Bool.not_eq_true', List.isEmpty_eq_false_iff]
  exact And.comm

theorem mem_difference {xs ys : List Text} {r : Text} :
    r ∈ difference xs ys ↔ r ∈ xs ∧ r ∉ ys := by
  unfold difference distinct
  rw [mem_sorted, List.mem_eraseDups, List.mem_filter]
  simp

theorem drift_isNone {xs ys : List Text} :
    (drift xs ys).isNone = true ↔ ∀ r, r ∈ xs ↔ r ∈ ys := by
  unfold drift Drift.isNone
  rw [Bool.and_eq_true, List.isEmpty_iff, List.isEmpty_iff, List.eq_nil_iff_forall_not_mem,
    List.eq_nil_iff_forall_not_mem]
  simp only [mem_difference, not_and, not_not]
  constructor
  · intro ⟨left, right⟩ r
    exact ⟨left r, right r⟩
  · intro same
    exact ⟨fun r => (same r).mp, fun r => (same r).mpr⟩

section
variable {p q : Project} {pinned pinned' : Option Text}

def Project.entries (p : Project) : List Text :=
  p.dependencies ++ runtimeExtras.flatMap fun name => (p.extras.get? name).getD []

theorem mem_entries {entry : Text} : entry ∈ p.entries ↔ p.Lists entry := by
  unfold Project.entries
  rw [List.mem_append, List.mem_flatMap]
  constructor
  · intro listed
    rcases listed with base | ⟨name, counts, listed⟩
    · exact .base base
    · cases kept : p.extras.get? name with
      | none => simp [kept] at listed
      | some entries =>
        rw [kept] at listed
        exact .extra (by simpa [runtimeExtras] using counts) kept listed
  · intro lists
    cases lists with
    | base listed => exact .inl listed
    | @extra name entries counts kept listed =>
      refine .inr ⟨name, by simpa [runtimeExtras] using counts, ?_⟩
      rw [kept]
      exact listed

theorem mem_declared {r : Text} : r ∈ p.declared ↔ p.Declares r := by
  change r ∈ tidied (distinct p.entries) ↔ _
  unfold distinct
  rw [mem_tidied]
  simp only [List.mem_eraseDups, mem_entries, Project.Declares]

theorem mem_pinned {r : Text} : r ∈ (pinned.map pinnedIn).getD [] ↔ Pins pinned r := by
  cases pinned with
  | none => simp [Pins, fileLines]
  | some content =>
    change r ∈ tidied _ ↔ _
    rw [mem_tidied]
    simp only [List.mem_map, exists_exists_and_eq_and]
    rfl

theorem run_check (d : Desk) : d.run [text "--check"] = (d.check, d) := rfl

theorem check_in_sync :
    Desk.check ⟨.project p, pinned⟩ = .done inSync ↔ ∀ r, p.Declares r ↔ Pins pinned r := by
  have agree := @drift_isNone p.declared ((pinned.map pinnedIn).getD [])
  simp only [mem_declared, mem_pinned] at agree
  rw [← agree]
  unfold Desk.check Manifest.declared
  dsimp only
  split
  case isTrue settled => exact iff_of_true rfl settled
  case isFalse drifted => exact iff_of_false (by simp) drifted

end

end CrossShader.Requirements
