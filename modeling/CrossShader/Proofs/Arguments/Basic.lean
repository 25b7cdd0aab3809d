import CrossShader.Arguments.Clustered
import Mathlib.Data.List.TakeWhile

/-!
What the proofs about command lines have in common, whatever the grammar. A word is the part before
its first equals sign, and if it has one, that sign and the value that it attaches.
-/
namespace CrossShader.Arguments

theorem bind_eq_ok {ε α β : Type} {value : Except ε α} {next : α → Except ε β} {result : β} :
    (value >>= next) = .ok result ↔ ∃ made, value = .ok made ∧ next made = .ok result := by
  cases value with
  | error e => simp [bind, Except.bind]
  | ok made => simp [bind, Except.bind]

theorem map_eq_ok {ε α β : Type} {value : Except ε α} {f : α → β} {result : β} :
    value.map f = .ok result ↔ ∃ made, value = .ok made ∧ f made = result := by
  cases value with
  | error e => simp [Except.map]
  | ok made => simp [Except.map]

theorem splitValue_attached {start : Text} (absent : equalsSign ∉ start) (value : Text) :
    splitValue (start ++ equalsSign :: value) = (start, some value) := by
  have passed : ∀ c ∈ start, (c != equalsSign) = true := by
    intro c inside
    exact bne_iff_ne.mpr (ne_of_mem_of_not_mem inside absent)
  unfold splitValue
  rw [List.dropWhile_append_of_pos passed, List.takeWhile_append_of_pos passed]
  simp

theorem isLong_of_name {word : Text} (long : isLong (splitValue word).1 = true) :
    isLong word = true := by
  rw [splitValue] at long
  split at long
  · exact long
  · rw [isLong, List.isPrefixOf_iff_prefix] at long ⊢
    exact long.trans (List.takeWhile_prefix _)

end CrossShader.Arguments
