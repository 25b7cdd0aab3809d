import CrossShader.Text.Basic
import Mathlib.Data.List.Lex
import Mathlib.Data.List.Sort

/-!
Code point order, which is the lexicographic one. What is sorted by a text has the members it had,
and as long as no two members share that text, nothing else of the given list is left in it.
-/
namespace CrossShader.Text

theorem precedes_iff {s t : Text} : precedes s t = true ↔ s < t := by
  induction s generalizing t with
  | nil => cases t <;> simp [precedes]
  | cons a s ih =>
    cases t with
    | nil => simp [precedes]
    | cons b t => simp [precedes, List.cons_lt_cons_iff, ih]

section
variable {α : Type}

def sortedBy (key : α → Text) (xs : List α) : List α :=
  xs.mergeSort fun a b => !precedes (key b) (key a)

variable {key : α → Text} {xs ys : List α}

theorem sortedBy_perm (key : α → Text) (xs : List α) : (sortedBy key xs).Perm xs :=
  List.mergeSort_perm xs _

theorem mem_sortedBy {x : α} : x ∈ sortedBy key xs ↔ x ∈ xs := List.mem_mergeSort

theorem pairwise_sortedBy (key : α → Text) (xs : List α) :
    (sortedBy key xs).Pairwise (key · ≤ key ·) := by
  have le_iff (a b : α) : (!precedes (key b) (key a)) = true ↔ key a ≤ key b := by
    rw [Bool.not_eq_true', ← Bool.not_eq_true, precedes_iff, not_lt]
  have ordered : (sortedBy key xs).Pairwise fun a b => (!precedes (key b) (key a)) = true := by
    apply List.pairwise_mergeSort
    · intro a b c first second
      rw [le_iff] at first second ⊢
      exact le_trans first second
    · intro a b
      rw [Bool.or_eq_true, le_iff, le_iff]
      exact le_total (key a) (key b)
  exact ordered.imp fun below => (le_iff _ _).mp below

theorem ascending_sortedBy (distinct : (xs.map key).Nodup) :
    (sortedBy key xs).Pairwise (key · < key ·) := by
  have apart : ((sortedBy key xs).map key).Nodup :=
    ((sortedBy_perm key xs).map key).nodup_iff.mpr distinct
  have both := (pairwise_sortedBy key xs).and (List.pairwise_map.mp apart)
  exact both.imp fun ⟨below, other⟩ => lt_of_le_of_ne below other

theorem sortedBy_congr (apart : ∀ a ∈ xs, ∀ b ∈ xs, key a = key b → a = b) (same : xs.Perm ys) :
    sortedBy key xs = sortedBy key ys := by
  have sameSorted := (sortedBy_perm key xs).trans (same.trans (sortedBy_perm key ys).symm)
  apply sameSorted.eq_of_pairwise _ (pairwise_sortedBy key xs) (pairwise_sortedBy key ys)
  intro a b left right below above
  exact apart a (mem_sortedBy.mp left) b (same.mem_iff.mpr (mem_sortedBy.mp right))
    (le_antisymm below above)

end

theorem mem_sorted {t : Text} {ts : List Text} : t ∈ sorted ts ↔ t ∈ ts := List.mem_mergeSort

end CrossShader.Text
