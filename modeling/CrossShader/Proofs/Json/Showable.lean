import CrossShader.Json.Basic
import CrossShader.Proofs.Text.Encodable
import Mathlib.Tactic.MkIffOfInductiveProp

/-!
What stands in the way of showing a value: a part of it that is seen and is a number that is not
finite, or a text without an encoding. A part under a withheld name is not seen.
-/
namespace CrossShader.Json
open Text

/-- A part of a value, the value itself included, that no withheld name hides. -/
inductive Seen (withheld : Text → Bool) (w : Json) : Json → Prop where
  | self : Seen withheld w w
  | item {v : Json} {items : List Json} (listed : v ∈ items) (inside : Seen withheld w v) :
      Seen withheld w (.array items)
  | member {m : Text × Json} {members : List (Text × Json)} (listed : m ∈ members)
      (plain : withheld m.1 = false) (inside : Seen withheld w m.2) :
      Seen withheld w (.object members)

def nothingWithheld (_ : Text) : Bool := false

def IsNotFinite (v : Json) : Prop :=
  v = .number .nan ∨ ∃ negative, v = .number (.infinite negative)

def IsFinite (v : Json) : Prop := ∀ w, Seen nothingWithheld w v → ¬ w.IsNotFinite

/-- All texts of the value have an encoding, the names of members among them. -/
structure HasEncoding (v : Json) : Prop where
  strings : ∀ t, Seen nothingWithheld (.string t) v → Encodable t
  names : ∀ members, Seen nothingWithheld (.object members) v → ∀ m ∈ members, Encodable m.1

/-- The value does not stand in the way itself. -/
@[mk_iff]
structure IsPresentable (withheld : Text → Bool) (v : Json) : Prop where
  finite : ¬ v.IsNotFinite
  string : ∀ t, v = .string t → Encodable t
  names : ∀ members, v = .object members → ∀ m ∈ members, withheld m.1 = false → Encodable m.1

section
variable {withheld : Text → Bool} {u v w : Json}

theorem Seen.trans (inner : Seen withheld u v) (outer : Seen withheld v w) :
    Seen withheld u w := by
  induction outer with
  | self => exact inner
  | item listed _ ih => exact .item listed ih
  | member listed plain _ ih => exact .member listed plain ih

theorem Seen.whatever_withheld (seen : Seen withheld w v) : Seen nothingWithheld w v := by
  induction seen with
  | self => exact .self
  | item listed _ ih => exact .item listed ih
  | member listed _ _ ih => exact .member listed rfl ih

theorem seen_array {items : List Json} :
    Seen withheld w (.array items) ↔ w = .array items ∨ ∃ v ∈ items, Seen withheld w v := by
  constructor
  · intro seen
    cases seen with
    | self => exact .inl rfl
    | item listed inside => exact .inr ⟨_, listed, inside⟩
  · rintro (rfl | ⟨v, listed, inside⟩)
    · exact .self
    · exact .item listed inside

theorem seen_object {members : List (Text × Json)} :
    Seen withheld w (.object members) ↔
      w = .object members ∨ ∃ m ∈ members, withheld m.1 = false ∧ Seen withheld w m.2 := by
  constructor
  · intro seen
    cases seen with
    | self => exact .inl rfl
    | member listed plain inside => exact .inr ⟨_, listed, plain, inside⟩
  · rintro (rfl | ⟨m, listed, plain, inside⟩)
    · exact .self
    · exact .member listed plain inside

theorem HasEncoding.of_seen (scalars : HasEncoding v) (seen : Seen nothingWithheld w v) :
    HasEncoding w :=
  ⟨fun t inside => scalars.strings t (inside.trans seen),
    fun members inside => scalars.names members (inside.trans seen)⟩

theorem hasEncoding_string {t : Text} : HasEncoding (.string t) ↔ Encodable t := by
  constructor
  · intro scalars
    exact scalars.strings t .self
  · intro scalars
    refine ⟨?_, ?_⟩ <;> rintro _ ⟨⟩
    exact scalars

theorem hasEncoding_number (x : Binary64) : HasEncoding (.number x) := by
  refine ⟨?_, ?_⟩ <;> rintro _ ⟨⟩

theorem hasEncoding_object {members : List (Text × Json)} :
    HasEncoding (.object members) ↔ ∀ m ∈ members, Encodable m.1 ∧ HasEncoding m.2 := by
  constructor
  · intro scalars m listed
    exact ⟨scalars.names members .self m listed, scalars.of_seen (.member listed rfl .self)⟩
  · intro parts
    refine ⟨?_, ?_⟩
    · intro t seen
      rcases seen_object.mp seen with same | ⟨m, listed, _, inside⟩
      · simp at same
      · exact (parts m listed).2.strings t inside
    · intro inner seen
      rcases seen_object.mp seen with same | ⟨m, listed, _, inside⟩
      · obtain rfl : inner = members := by simpa using same
        exact fun m listed => (parts m listed).1
      · exact (parts m listed).2.names inner inside

theorem HasEncoding.presentable_iff (scalars : HasEncoding v) (seen : Seen withheld w v) :
    IsPresentable withheld w ↔ ¬ w.IsNotFinite := by
  constructor
  · exact IsPresentable.finite
  · intro finite
    refine ⟨finite, ?_, ?_⟩
    · rintro t rfl
      exact scalars.strings t seen.whatever_withheld
    · rintro members rfl m listed _
      exact scalars.names members seen.whatever_withheld m listed

theorem forall_seen_of_bare (bare : ∀ w, Seen withheld w v → w = v) :
    (∀ w, Seen withheld w v → IsPresentable withheld w) ↔ IsPresentable withheld v := by
  constructor
  · intro each
    exact each v .self
  · intro presentable w seen
    rwa [bare w seen]

theorem isPresentable_array (withheld : Text → Bool) (items : List Json) :
    IsPresentable withheld (.array items) :=
  ⟨by simp [IsNotFinite], by simp, by simp⟩

theorem isPresentable_object {members : List (Text × Json)} :
    IsPresentable withheld (.object members) ↔
      ∀ m ∈ members, withheld m.1 = false → Encodable m.1 := by
  constructor
  · intro presentable
    exact presentable.names members rfl
  · intro names
    refine ⟨by simp [IsNotFinite], by simp, ?_⟩
    rintro _ ⟨⟩
    exact names

end

mutual

theorem isShowable_iff (withheld : Text → Bool) :
    ∀ v : Json, isShowable withheld v = true ↔
      ∀ w, Seen withheld w v → IsPresentable withheld w
  | .null => by
    rw [forall_seen_of_bare fun w seen => by cases seen; rfl]
    simp [isShowable, IsNotFinite, isPresentable_iff]
  | .bool b => by
    rw [forall_seen_of_bare fun w seen => by cases seen; rfl]
    simp [isShowable, IsNotFinite, isPresentable_iff]
  | .integer n => by
    rw [forall_seen_of_bare fun w seen => by cases seen; rfl]
    simp [isShowable, IsNotFinite, isPresentable_iff]
  | .number x => by
    rw [forall_seen_of_bare fun w seen => by cases seen; rfl]
    cases x <;> simp [isShowable, IsNotFinite, isPresentable_iff]
  | .string t => by
    rw [forall_seen_of_bare fun w seen => by cases seen; rfl]
    simp [isShowable, IsNotFinite, isPresentable_iff, Encodable]
  | .array items => by
    rw [isShowable, areShowable_iff withheld items]
    constructor
    · intro parts w seen
      rcases seen_array.mp seen with rfl | ⟨v, listed, inside⟩
      · exact isPresentable_array withheld items
      · exact parts v listed w inside
    · intro all v listed w inside
      exact all w (.item listed inside)
  | .object members => by
    rw [isShowable, membersShowable_iff withheld members]
    constructor
    · intro parts w seen
      rcases seen_object.mp seen with rfl | ⟨m, listed, plain, inside⟩
      · exact isPresentable_object.mpr fun m listed plain => (parts m listed plain).1
      · exact (parts m listed plain).2 w inside
    · intro all m listed plain
      refine ⟨isPresentable_object.mp (all _ .self) m listed plain, ?_⟩
      intro w inside
      exact all w (.member listed plain inside)

theorem areShowable_iff (withheld : Text → Bool) :
    ∀ items : List Json, areShowable withheld items = true ↔
      ∀ v ∈ items, ∀ w, Seen withheld w v → IsPresentable withheld w
  | [] => by simp [areShowable]
  | v :: rest => by
    have first := isShowable_iff withheld v
    have later := areShowable_iff withheld rest
    rw [areShowable, Bool.and_eq_true, first, later, List.forall_mem_cons]

theorem membersShowable_iff (withheld : Text → Bool) :
    ∀ members : List (Text × Json), membersShowable withheld members = true ↔
      ∀ m ∈ members, withheld m.1 = false →
        Encodable m.1 ∧ ∀ w, Seen withheld w m.2 → IsPresentable withheld w
  | [] => by simp [membersShowable]
  | (name, v) :: rest => by
    have first := isShowable_iff withheld v
    have later := membersShowable_iff withheld rest
    rw [membersShowable, Bool.and_eq_true, Bool.or_eq_true, Bool.and_eq_true, encodable_all, first,
      later, List.forall_mem_cons]
    cases withheld name <;> simp

end

theorem isShowable_nothingWithheld (v : Json) :
    isShowable nothingWithheld v = true ↔ HasEncoding v ∧ IsFinite v := by
  rw [isShowable_iff]
  constructor
  · intro presentable
    exact ⟨⟨fun t seen => (presentable _ seen).string t rfl,
      fun members seen m listed => (presentable _ seen).names members rfl m listed rfl⟩,
      fun w seen => (presentable w seen).finite⟩
  · rintro ⟨scalars, finite⟩ w seen
    exact (scalars.presentable_iff seen).mpr (finite w seen)

theorem isShowable_of_hasEncoding (withheld : Text → Bool) {v : Json} (scalars : HasEncoding v) :
    isShowable withheld v = true ↔ ∀ w, Seen withheld w v → ¬ w.IsNotFinite := by
  rw [isShowable_iff]
  exact forall₂_congr fun w seen => scalars.presentable_iff seen

end CrossShader.Json
