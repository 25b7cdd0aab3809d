import CrossShader.Text.Basic

/-!
Control sequences by which texts style a terminal: an escape character, an opening bracket,
parameters and a letter. What is left after they are dropped is not looked at again.
-/
namespace CrossShader.Text

def escapeCharacter : CodePoint := 27

def isParameter (c : CodePoint) : Bool := (48 ≤ c && c ≤ 57) || c == 59 || c == 63

def isLetter (c : CodePoint) : Bool := (65 ≤ c && c ≤ 90) || (97 ≤ c && c ≤ 122)

/-- The length of the rest of a control sequence after its escape character. -/
def controlLength? : Text → Option Nat
  | 91 :: rest =>
    let parameters := rest.takeWhile isParameter
    match rest.drop parameters.length with
    | c :: _ => if isLetter c then some (parameters.length + 2) else none
    | [] => none
  | _ => none

def dropStyles : Text → Text
  | [] => []
  | c :: rest =>
    match (if c = escapeCharacter then controlLength? rest else none) with
    | some n => dropStyles (rest.drop n)
    | none => c :: dropStyles rest
termination_by t => t.length
decreasing_by
  · exact length_drop_lt _ _ _
  · exact Nat.lt_succ_self _

end CrossShader.Text
