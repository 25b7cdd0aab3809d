import CrossShader.Proofs.Requirements.Comparison
import CrossShader.Proofs.Text.Blank
import CrossShader.Proofs.Text.Lines

/-!
The list as it is written and as it is read. Each requirement is written on a line of its own below
two lines of comment. It is read back if no comment and no new line begins in it, and then only, for
whatever a line pins has neither.
-/
namespace CrossShader.Requirements
open Text

/-- A text that one line can hold outside a comment. -/
structure FitsLine (r : Text) : Prop where
  uncut : hash ∉ r
  unbroken : ∀ c ∈ r, endsLine c = false

theorem uncommented_of_uncut {line : Text} (uncut : hash ∉ line) : uncommented line = line := by
  apply List.takeWhile_eq_self_iff.mpr
  intro c inside
  exact bne_iff_ne.mpr (ne_of_mem_of_not_mem inside uncut)

theorem hash_not_mem_uncommented (line : Text) : hash ∉ uncommented line := by
  intro inside
  simpa using List.mem_takeWhile_imp inside

theorem fitsLine_of_pins {pinned : Option Text} {r : Text} (pins : Pins pinned r) :
    FitsLine r := by
  obtain ⟨_, line, listed, rfl⟩ := pins
  have inside {c : CodePoint} (member : c ∈ strip (uncommented line)) : c ∈ uncommented line :=
    (strip_isInfix _).mem member
  constructor
  · intro member
    exact hash_not_mem_uncommented line (inside member)
  · intro c member
    have inLine : c ∈ line := (List.takeWhile_prefix _).mem (inside member)
    cases pinned with
    | none => simp [fileLines] at listed
    | some content => exact unbroken_wideLines listed c inLine

theorem header_is_comment : ∀ line ∈ header, uncommented line = [] := by decide

theorem header_unbroken : ∀ line ∈ header, ∀ c ∈ line, endsLine c = false := by decide

section
variable {rs : List Text} (fits : ∀ r ∈ rs, FitsLine r)
include fits

theorem fileLines_render : fileLines (some (render rs)) = header ++ rs := by
  have unbroken : ∀ line ∈ header ++ rs, ∀ c ∈ line, endsLine c = false := by
    intro line listed
    rcases List.mem_append.mp listed with fixed | requirement
    · exact header_unbroken line fixed
    · exact (fits line requirement).unbroken
  have unified : 13 ∉ render rs := by
    unfold render
    intro inside
    rcases List.mem_append.mp inside with inside | last
    · rcases mem_unlines inside with eq | ⟨line, listed, inLine⟩
      · exact absurd eq (by decide)
      · exact absurd (unbroken line listed 13 inLine) (by decide)
    · exact absurd last (by decide)
  unfold fileLines
  dsimp only
  rw [unifyLineEnds_of_no_return unified]
  exact wideLines_unlines unbroken (by simp [header])

theorem pins_render {r : Text} : Pins (some (render rs)) r ↔ r ≠ [] ∧ ∃ s ∈ rs, strip s = r := by
  unfold Pins
  rw [fileLines_render fits]
  apply and_congr_right
  intro solid
  constructor
  · rintro ⟨line, listed, rfl⟩
    rcases List.mem_append.mp listed with fixed | requirement
    · rw [header_is_comment line fixed] at solid
      exact absurd rfl solid
    · exact ⟨line, requirement, by rw [uncommented_of_uncut (fits line requirement).uncut]⟩
  · rintro ⟨s, listed, rfl⟩
    exact ⟨s, List.mem_append_right header listed, by
      rw [uncommented_of_uncut (fits s listed).uncut]⟩

end

theorem pins_written {p : Project} (fits : ∀ r, p.Declares r → FitsLine r) (r : Text) :
    Pins (some (render p.declared)) r ↔ p.Declares r := by
  rw [pins_render fun s listed => fits s (mem_declared.mp listed)]
  simp only [mem_declared]
  constructor
  · rintro ⟨solid, s, ⟨_, entry, lists, rfl⟩, rfl⟩
    exact ⟨solid, entry, lists, (strip_strip entry).symm⟩
  · intro declares
    have ⟨solid, entry, _, eq⟩ := declares
    exact ⟨solid, r, declares, by rw [← eq, strip_strip]⟩

/-- A list that has just been written is in step with the project exactly if every requirement fits
a line. Whatever stood in the file before, it is replaced. -/
theorem written_list_checks_iff (p : Project) (previous : Option Text) :
    let wrote := Desk.run ⟨.project p, previous⟩ []
    wrote = (.done (written p.declared.length), ⟨.project p, some (render p.declared)⟩) ∧
      (wrote.2.run [text "--check"] = (.done inSync, wrote.2) ↔
        ∀ r, p.Declares r → FitsLine r) := by
  intro wrote
  have settled : wrote = (.done (written p.declared.length),
      ⟨.project p, some (render p.declared)⟩) := rfl
  refine ⟨settled, ?_⟩
  rw [run_check, settled, Prod.mk.injEq, and_iff_left rfl, check_in_sync]
  constructor
  · intro same r declares
    exact fitsLine_of_pins ((same r).mp declares)
  · intro fits r
    exact (pins_written fits r).symm

/-- Blanks around an entry and an entry that comes twice do not keep the list from being read. -/
theorem spaced_entries_are_read_back :
    let p : Project := ⟨[text " b>=1\t", text "b>=1"], [(text "server", [text "a @ https://e/a"])]⟩
    let wrote := Desk.run ⟨.project p, some (text "old")⟩ []
    (∀ r, p.Declares r → FitsLine r) ∧ wrote.2.run [text "--check"] = (.done inSync, wrote.2) := by
  intro p wrote
  have fits : ∀ r, p.Declares r → FitsLine r := by
    have checked : ∀ entry ∈ p.entries,
        hash ∉ strip entry ∧ ∀ c ∈ strip entry, endsLine c = false := by decide
    rintro r ⟨_, entry, lists, rfl⟩
    obtain ⟨uncut, unbroken⟩ := checked entry (mem_entries.mpr lists)
    exact ⟨uncut, unbroken⟩
  exact ⟨fits, (written_list_checks_iff p (some (text "old"))).2.mpr fits⟩

/-- A reference whose address has a fragment is written whole and read without the fragment. -/
theorem fragment_is_not_read_back :
    let p : Project := ⟨[text "a @ https://e/a.zip#egg=a"], []⟩
    let wrote := Desk.run ⟨.project p, none⟩ []
    p.Declares (text "a @ https://e/a.zip#egg=a") ∧
      ¬ Pins wrote.2.pinned (text "a @ https://e/a.zip#egg=a") ∧
      (wrote.2.run [text "--check"]).1 ≠ .done inSync := by
  intro p wrote
  have declares : p.Declares (text "a @ https://e/a.zip#egg=a") :=
    ⟨by decide, _, .base List.mem_cons_self, by decide⟩
  have dropped : ¬ Pins wrote.2.pinned (text "a @ https://e/a.zip#egg=a") := by
    intro pins
    exact absurd (fitsLine_of_pins pins).uncut (by decide)
  refine ⟨declares, dropped, ?_⟩
  intro settled
  exact dropped ((check_in_sync.mp settled _).mp declares)

end CrossShader.Requirements
