import CrossShader.Text.Basic

/-!
How close two texts are: twice the number of code points they share over the number of all. Shared
are those of the longest common run, and to both sides of it those of the longest ones there.
-/
namespace CrossShader.Text

def commonStart : Text → Text → Nat
  | a :: s, b :: t => if a = b then commonStart s t + 1 else 0
  | _, _ => 0

/-- A run of `length` code points at offset `left` of one text and `right` of another. -/
structure Run where
  left : Nat
  right : Nat
  length : Nat
  deriving DecidableEq, Repr

def longestAt (s : Text) (left : Nat) : Nat → Text → Run
  | right, [] => ⟨left, right, 0⟩
  | right, b :: t =>
    let here : Run := ⟨left, right, commonStart s (b :: t)⟩
    let later := longestAt s left (right + 1) t
    if later.length ≤ here.length then here else later

def longestRun (t : Text) : Nat → Text → Run
  | left, [] => ⟨left, 0, 0⟩
  | left, a :: s =>
    let here := longestAt (a :: s) left 0 t
    let later := longestRun t (left + 1) s
    if later.length ≤ here.length then here else later

/--
The number of shared code points. Each round shortens the texts, so their length is enough fuel.
-/
def sharedWith : Nat → Text → Text → Nat
  | 0, _, _ => 0
  | fuel + 1, s, t =>
    let r := longestRun t 0 s
    if r.length = 0 then 0
    else
      sharedWith fuel (s.take r.left) (t.take r.right) + r.length +
        sharedWith fuel (s.drop (r.left + r.length)) (t.drop (r.right + r.length))

def shared (s t : Text) : Nat := sharedWith (s.length + 1) s t

def isClose (s t : Text) : Bool := 3 * (s.length + t.length) ≤ 5 * (2 * shared s t)

/--
`s` is closer to the word than `t`; of equally close ones the later in order counts as closer.
-/
def isCloser (word s t : Text) : Bool :=
  let a := shared s word * (t.length + word.length)
  let b := shared t word * (s.length + word.length)
  b < a || (a == b && !precedes s t)

def closest (word : Text) (candidates : List Text) : List Text :=
  ((candidates.filter fun c => isClose c word).mergeSort (isCloser word)).take 3

end CrossShader.Text
