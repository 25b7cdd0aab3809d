import CrossShader.Proofs.Text.Encodable
import CrossShader.Service.Body

/-!
Readers of bodies, taken apart. Each one is described twice: by when it gives a value, and by which
parts of the body its problems are about.
-/
namespace CrossShader.Service
open Text

variable {α β : Type}

namespace Checked

theorem map_eq_ok {x : Checked α} {f : α → β} {b : β} :
    x.map f = .ok b ↔ ∃ a, x = .ok a ∧ f a = b := by
  cases x <;> simp [Except.map]

theorem both_eq_ok {x : Checked α} {y : Checked β} {a : α} {b : β} :
    x.both y = .ok (a, b) ↔ x = .ok a ∧ y = .ok b := by
  cases x <;> cases y <;> simp [both]

theorem andNone_eq_ok {x : Checked α} {more : List Problem} {a : α} :
    x.andNone more = .ok a ↔ x = .ok a ∧ more = [] := by
  cases x <;> cases more <;> simp [andNone]

def Concerns (x : Checked α) (whole w : Json) : Prop := ∃ p ∈ x.problems, p.subject whole = w

variable {whole w : Json}

theorem concerns_ok (a : α) : ¬ Concerns (.ok a) whole w := by simp [Concerns, problems]

theorem concerns_map {x : Checked α} (f : α → β) :
    Concerns (x.map f) whole w ↔ x.Concerns whole w := by
  cases x <;> rfl

theorem concerns_both {x : Checked α} {y : Checked β} :
    (x.both y).Concerns whole w ↔ x.Concerns whole w ∨ y.Concerns whole w := by
  have gathered : (x.both y).problems = x.problems ++ y.problems := by
    cases x <;> cases y <;> rfl
  simp only [Concerns, gathered, List.mem_append, or_and_right, exists_or]

theorem concerns_andNone {x : Checked α} {more : List Problem} :
    (x.andNone more).Concerns whole w ↔
      x.Concerns whole w ∨ ∃ p ∈ more, p.subject whole = w := by
  have gathered : (x.andNone more).problems = x.problems ++ more := by
    cases x <;> cases more <;> rfl
  simp only [Concerns, gathered, List.mem_append, or_and_right, exists_or]

end Checked

/-- The reader complains of nothing but the value that it reads. -/
def IsReader (read : Json → Except Complaint α) : Prop :=
  ∀ v c, read v = .error c → c ≠ .missing ∧ c ≠ .notJson

section
variable {read : Json → Except Complaint α} {key : Text} {ms : Members} {a fallback : α} {w : Json}

theorem located_eq_ok {x : Except Complaint α} : located key x = .ok a ↔ x = .ok a := by
  cases x <;> simp [located]

theorem required_eq_ok :
    required read key ms = .ok a ↔ ∃ v, ms.lookup key = some v ∧ read v = .ok a := by
  rw [required]
  cases ms.lookup key <;> simp [located_eq_ok]

theorem withDefault_eq_ok :
    withDefault read fallback key ms = .ok a ↔
      (∃ v, ms.lookup key = some v ∧ read v = .ok a) ∨ ms.lookup key = none ∧ a = fallback := by
  rw [withDefault]
  cases ms.lookup key with
  | none => simp [eq_comm]
  | some v => simp [located_eq_ok]

theorem subject_at_key (ms : Members) (key : Text) {c : Complaint}
    (own : c ≠ .missing ∧ c ≠ .notJson) :
    Problem.subject (.object ms) ⟨c, [.key key]⟩ = (ms.lookup key).getD .null := by
  cases c <;> first | rfl | simp at own

theorem concerns_located (isReader : IsReader read) {v : Json} (given : ms.lookup key = some v) :
    (located key (read v)).Concerns (.object ms) w ↔ v = w ∧ ∀ a, read v ≠ .ok a := by
  cases result : read v with
  | ok a => simp [located, Checked.concerns_ok]
  | error c =>
    have subject := subject_at_key ms key (isReader v c result)
    simp [located, Checked.Concerns, Checked.problems, subject, given]

theorem concerns_required (isReader : IsReader read) :
    (required read key ms).Concerns (.object ms) w ↔
      (ms.lookup key = none ∧ w = .object ms) ∨
        (ms.lookup key = some w ∧ ∀ a, read w ≠ .ok a) := by
  rw [required]
  cases given : ms.lookup key with
  | none => simp [Checked.Concerns, Checked.problems, Problem.subject, eq_comm]
  | some v =>
    simp only [concerns_located isReader given, Option.some.injEq, reduceCtorEq, false_and,
      false_or]
    exact and_congr_right fun same => by rw [same]

theorem concerns_withDefault (isReader : IsReader read) :
    (withDefault read fallback key ms).Concerns (.object ms) w ↔
      ms.lookup key = some w ∧ ∀ a, read w ≠ .ok a := by
  rw [withDefault]
  cases given : ms.lookup key with
  | none => simp [Checked.concerns_ok]
  | some v =>
    simp only [concerns_located isReader given, Option.some.injEq]
    exact and_congr_right fun same => by rw [same]

end

section
variable {known : List Text} {ms : Members}

theorem extras_eq_nil : extras known ms = [] ↔ ∀ m ∈ ms, m.1 ∈ known := by
  simp [extras]

theorem concerns_extras {w : Json} :
    (∃ p ∈ extras known ms, p.subject (.object ms) = w) ↔
      ∃ key, key ∉ known ∧ ms.lookup key = some w := by
  constructor
  · rintro ⟨p, listed, about⟩
    obtain ⟨m, member, rfl⟩ := List.mem_map.mp listed
    obtain ⟨inside, unknown⟩ := List.mem_filter.mp member
    obtain ⟨v, given⟩ := Table.lookup_of_mem inside
    have subject : (ms.lookup m.1).getD .null = w := about
    rw [given] at subject
    exact ⟨m.1, by simpa using unknown, given.trans (congrArg some subject)⟩
  · rintro ⟨key, unknown, given⟩
    refine ⟨⟨.extra, [.key key]⟩, ?_, ?_⟩
    · exact List.mem_map.mpr ⟨(key, w),
        List.mem_filter.mpr ⟨Table.mem_of_lookup given, by simpa using unknown⟩, rfl⟩
    · change (ms.lookup key).getD .null = w
      rw [given]
      rfl

theorem closed_eq_ok {fields : Checked α} {a : α} (names : ∀ key ∈ known, Encodable key) :
    closed known ms fields = .ok a ↔ fields = .ok a ∧ ∀ m ∈ ms, m.1 ∈ known := by
  rw [closed]
  split
  case isTrue => rw [Checked.andNone_eq_ok, extras_eq_nil]
  case isFalse flawed =>
    constructor
    · simp
    · rintro ⟨_, listed⟩
      exfalso
      apply flawed
      apply List.all_eq_true.mpr
      intro m member
      exact encodable_all.mpr (names m.1 (listed m member))

theorem concerns_closed {fields : Checked α} {w : Json} (names : ∀ m ∈ ms, Encodable m.1) :
    (closed known ms fields).Concerns (.object ms) w ↔
      fields.Concerns (.object ms) w ∨ ∃ key, key ∉ known ∧ ms.lookup key = some w := by
  have encodable : (ms.all fun m => m.1.all isScalar) = true :=
    List.all_eq_true.mpr fun m member => encodable_all.mpr (names m member)
  rw [closed, if_pos encodable, Checked.concerns_andNone, concerns_extras]

end

theorem readSelector_eq_ok {v : Json} {t : Text} :
    readSelector v = .ok t ↔ ∃ u, v = .string u ∧ t = canonicalSelector u := by
  cases v <;> simp [readSelector, readText, Except.map, eq_comm]

theorem readSelector_isReader : IsReader readSelector := by
  intro v c failed
  obtain rfl : c = .notText := by
    cases v with
    | string t => simp [readSelector, readText, Except.map] at failed
    | _ => simpa [readSelector, readText, Except.map, eq_comm] using failed
  decide

theorem readSource_string (t : Text) :
    readSource (.string t) =
      if t = [] then .error .textTooShort
      else if Encodable t then .ok t else .error .textNotUnicode := by
  cases t with
  | nil => rfl
  | cons c rest =>
    rw [readSource, if_neg (List.cons_ne_nil c rest)]
    · simp only [encodable_all]
    · exact List.cons_ne_nil c rest

theorem readSource_eq_ok {v : Json} {t : Text} :
    readSource v = .ok t ↔ v = .string t ∧ t ≠ [] ∧ Encodable t := by
  cases v with
  | string u =>
    rw [readSource_string]
    constructor
    · intro read
      split at read
      · simp at read
      · split at read
        · cases read
          exact ⟨rfl, ‹_›, ‹_›⟩
        · simp at read
    · rintro ⟨⟨⟩, nonempty, scalars⟩
      rw [if_neg nonempty, if_pos scalars]
  | _ => simp [readSource]

theorem readSource_isReader : IsReader readSource := by
  intro v c failed
  have apart : ∀ c ∈ [Complaint.notText, .textTooShort, .textNotUnicode],
      c ≠ .missing ∧ c ≠ .notJson := by
    decide
  have own : c ∈ [Complaint.notText, .textTooShort, .textNotUnicode] := by
    cases v with
    | string t =>
      rw [readSource_string] at failed
      split at failed
      · cases failed
        decide
      · split at failed
        · simp at failed
        · cases failed
          decide
    | _ =>
      cases failed
      decide
  exact apart c own

end CrossShader.Service
