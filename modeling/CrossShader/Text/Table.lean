import CrossShader.Text.Basic

/-!
Tables keyed by text in the order in which the keys came. A key that comes again keeps its place and
takes the new value.
-/
namespace CrossShader

abbrev Table (α : Type) := List (Text × α)

namespace Table
variable {α : Type}

def insert (key : Text) (value : α) : Table α → Table α
  | [] => [(key, value)]
  | (k, v) :: rest => if k = key then (k, value) :: rest else (k, v) :: insert key value rest

def ofList (entries : List (Text × α)) : Table α :=
  entries.foldl (fun table entry => insert entry.1 entry.2 table) []

def get? (table : Table α) (key : Text) : Option α := table.lookup key

def keys (table : Table α) : List Text := table.map Prod.fst

theorem mem_of_lookup {table : Table α} {key : Text} {value : α}
    (found : table.lookup key = some value) : (key, value) ∈ table := by
  obtain ⟨front, rest, eq, _⟩ := List.lookup_eq_some_iff.mp found
  simp [eq]

theorem lookup_of_mem {table : Table α} {entry : Text × α} (listed : entry ∈ table) :
    ∃ value, table.lookup entry.1 = some value :=
  Option.isSome_iff_exists.mp (List.lookup_isSome_iff.mpr ⟨entry, listed, beq_self_eq_true _⟩)

end Table

/-- Variables that configure the program. One that is absent is unset. -/
abbrev Environment := Table Text

end CrossShader
