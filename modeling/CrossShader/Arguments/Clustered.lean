import CrossShader.Text.Closeness
import CrossShader.Text.Quoted

/-!
Command lines of options with a long name, a letter or both. Letters may stand in a row behind one
dash, and whatever follows an option that wants a value is its value, even if it looks like an
option.
-/
namespace CrossShader.Arguments
open Text

def dash : CodePoint := 45

def equalsSign : CodePoint := 61

def splitValue (word : Text) : Text × Option Text :=
  match word.dropWhile (· != equalsSign) with
  | [] => (word, none)
  | _ :: value => (word.takeWhile (· != equalsSign), some value)

def isLong (word : Text) : Bool := [dash, dash].isPrefixOf word

structure Switch where
  names : List Text
  takesValue : Bool
  deriving DecidableEq, Repr

structure Choice where
  switch : Switch
  value : Option Text
  deriving DecidableEq, Repr

inductive OptionFault where
  | unknown (name : Text) (close : List Text)
  | valueMissing (name : Text)
  | valueRefused (name : Text)
  deriving DecidableEq, Repr

namespace OptionFault

def alternatives : OptionFault → Text
  | unknown _ (c :: close) =>
    text " (Possible options: " ++ join (text ", ") (sorted (c :: close)) ++ text ")"
  | _ => []

def summary : OptionFault → Text
  | unknown name _ => text "No such option: " ++ spellControls name
  | valueMissing name => text "Option " ++ quoted name ++ text " requires an argument."
  | valueRefused name => text "Option " ++ quoted name ++ text " does not take a value."

end OptionFault

def longNames (switches : List Switch) : List Text :=
  switches.flatMap fun s => s.names.filter isLong

def named? (switches : List Switch) (name : Text) : Option Switch :=
  switches.find? fun s => s.names.contains name

abbrev Made := List Choice × Option (Switch × Text)

def chooseLetters (switches : List Switch) : Text → Except OptionFault Made
  | [] => .ok ([], none)
  | c :: rest =>
    match named? switches [dash, c] with
    | none => .error (.unknown [dash, c] [])
    | some s =>
      if s.takesValue then
        .ok (if rest.isEmpty then ([], some (s, [dash, c])) else ([⟨s, some rest⟩], none))
      else do
        let (made, pending) ← chooseLetters switches rest
        .ok (⟨s, none⟩ :: made, pending)

def chooseLong (s : Switch) (name : Text) : Option Text → Except OptionFault Made
  | some value =>
    if s.takesValue then .ok ([⟨s, some value⟩], none) else .error (.valueRefused name)
  | none => .ok (if s.takesValue then ([], some (s, name)) else ([⟨s, none⟩], none))

def choose (switches : List Switch) (word : Text) : Except OptionFault Made :=
  let (name, value) := splitValue word
  match (if isLong name then named? switches name else none) with
  | some s => chooseLong s name value
  | none =>
    if isLong word then .error (.unknown name (closest name (longNames switches)))
    else chooseLetters switches (word.drop 1)

def isOption (word : Text) : Bool := word.head? = some dash && 1 < word.length

/-- The choices made, and the words that are none. If options may not be mixed with other words,
reading stops at the first of these; two dashes stop it in any case. A fault comes with the words
that are then still unread. -/
def scan (switches : List Switch) (mixed : Bool) :
    List Text → Except (OptionFault × List Text) (List Choice × List Text)
  | [] => .ok ([], [])
  | word :: rest =>
    if word = [dash, dash] then .ok ([], rest)
    else if isOption word then
      match choose switches word with
      | .error fault => .error (fault, rest)
      | .ok (made, none) => do
        let (choices, words) ← scan switches mixed rest
        .ok (made ++ choices, words)
      | .ok (made, some (s, name)) =>
        match rest with
        | [] => .error (.valueMissing name, [])
        | value :: rest => do
          let (choices, words) ← scan switches mixed rest
          .ok (made ++ ⟨s, some value⟩ :: choices, words)
    else if mixed then do
      let (choices, words) ← scan switches mixed rest
      .ok (choices, word :: words)
    else .ok ([], word :: rest)

def lastValue? (s : Switch) (choices : List Choice) : Option Text :=
  ((choices.filter (·.switch == s)).getLast?).bind (·.value)

end CrossShader.Arguments
