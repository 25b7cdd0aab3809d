import CrossShader.Arguments.Clustered
import CrossShader.Decimal.Numeral
import CrossShader.Text.Lines
import CrossShader.Text.Quoted

/-!
Command lines of flags that may be shortened to any beginning that fits one of them only. A value
follows its flag or is attached to it; words that belong to no flag are left over. All words are
looked at before any flag takes effect, so an ambiguous one is refused first.
-/
namespace CrossShader.Arguments
open Text

structure Flag where
  names : List Text
  takesValue : Bool
  deriving DecidableEq, Repr

def Flag.title (f : Flag) : Text := join (text "/") f.names

def helpFlag : Flag := ⟨[text "-h", text "--help"], false⟩

inductive Role where
  | plain
  | stop
  | flag (flag : Flag) (name : Text) (attached : Option Text)
  | unknown
  deriving DecidableEq, Repr

structure Use where
  flag : Flag
  value : Option Text
  deriving DecidableEq, Repr

/-- Two dashes that are attached to a flag leave it without a value. -/
def Use.attached (f : Flag) (value : Text) : Use :=
  ⟨f, if value = [dash, dash] then none else some value⟩

inductive Refusal where
  | ambiguous (word : Text) (candidates : List Text)
  | valueMissing (flag : Flag)
  | valueIgnored (flag : Flag) (value : Text)
  | valueInvalid (flag : Flag) (expected value : Text)
  | leftOver (words : List Text)
  deriving DecidableEq, Repr

namespace Refusal

def message : Refusal → Text
  | ambiguous word candidates =>
    text "ambiguous option: " ++ word ++ text " could match " ++ join (text ", ") candidates
  | valueMissing flag => text "argument " ++ flag.title ++ text ": expected one argument"
  | valueIgnored flag value =>
    text "argument " ++ flag.title ++ text ": ignored explicit argument " ++ quoted value
  | valueInvalid flag expected value =>
    text "argument " ++ flag.title ++ text ": invalid " ++ expected ++ text " value: " ++
      quoted value
  | leftOver words => text "unrecognized arguments: " ++ join (text " ") words

end Refusal

def named (flags : List Flag) : List (Text × Flag) :=
  flags.flatMap fun f => f.names.map fun name => (name, f)

def longCandidates (flags : List Flag) (word : Text) : List (Text × Flag × Option Text) :=
  let (start, value) := splitValue word
  ((named flags).filter fun n => start.isPrefixOf n.1).map fun (name, f) => (name, f, value)

def shortCandidates (flags : List Flag) (word : Text) : List (Text × Flag × Option Text) :=
  (named flags).filterMap fun (name, f) =>
    if name = word.take 2 then some (name, f, some (word.drop 2))
    else if word.isPrefixOf name then some (name, f, none)
    else none

def candidates (flags : List Flag) (word : Text) : List (Text × Flag × Option Text) :=
  if isLong word then longCandidates flags word else shortCandidates flags word

/-- A dash and digits of any script, with at most one point that has digits after it; one line feed
at the end is overlooked. -/
def isNegativeNumber (word : Text) : Bool :=
  let isDigit (c : CodePoint) : Bool := (digitValue? c).isSome
  let digits := (if word.getLast? = some newline then word.dropLast else word).drop 1
  match digits.dropWhile isDigit with
  | [] => !digits.isEmpty
  | 46 :: fraction => !fraction.isEmpty && fraction.all isDigit
  | _ => false

def exactRole? (flags : List Flag) (word : Text) : Option Role :=
  match (named flags).lookup word with
  | some f => some (.flag f word none)
  | none =>
    match splitValue word with
    | (_, none) => none
    | (name, some value) => ((named flags).lookup name).map fun f => .flag f name (some value)

/-- A word that no flag fits is plain if it looks like a number or holds a space. -/
def roleOf (flags : List Flag) (word : Text) : Except Refusal Role :=
  if word.head? ≠ some dash then .ok .plain
  else match exactRole? flags word with
    | some role => .ok role
    | none =>
      if word.length = 1 then .ok .plain
      else match candidates flags word with
        | [(name, f, value)] => .ok (.flag f name value)
        | _ :: _ :: _ => .error (.ambiguous word ((candidates flags word).map Prod.fst))
        | [] => .ok (if isNegativeNumber word || word.contains 32 then .plain else .unknown)

def rolesOf (flags : List Flag) : List Text → Except Refusal (List (Text × Role))
  | [] => .ok []
  | word :: rest =>
    if word = [dash, dash] then .ok ((word, .stop) :: rest.map fun w => (w, .plain))
    else do
      let role ← roleOf flags word
      let roles ← rolesOf flags rest
      .ok ((word, role) :: roles)

/-- Flags in the order of their use, then the words left over or the reason why reading stopped. -/
structure Reading where
  uses : List Use
  rest : Except Refusal (List Text)

namespace Reading

def use (f : Flag) (value : Option Text) (r : Reading) : Reading :=
  { r with uses := ⟨f, value⟩ :: r.uses }

def leave (word : Text) (r : Reading) : Reading := { r with rest := r.rest.map (word :: ·) }

def stop (refusal : Refusal) : Reading := ⟨[], .error refusal⟩

end Reading

/-- Letters in a row: each is a flag without a value but the last, which may take the rest of the
word or, if nothing is left, the word after it. Nothing takes effect if one letter is no flag. -/
def readLetters (flags : List Flag) (f : Flag) : Text → Except Refusal (List Use × Option Flag)
  | [] => .ok (if f.takesValue then ([], some f) else ([⟨f, none⟩], none))
  | c :: rest =>
    if f.takesValue then .ok ([.attached f (c :: rest)], none)
    else match (named flags).lookup [dash, c] with
      | none => .error (.valueIgnored f (c :: rest))
      | some next =>
        (readLetters flags next rest).map fun (uses, pending) => (⟨f, none⟩ :: uses, pending)

def readWord (flags : List Flag) (f : Flag) (name : Text) :
    Option Text → Except Refusal (List Use × Option Flag)
  | none => .ok (if f.takesValue then ([], some f) else ([⟨f, none⟩], none))
  | some value =>
    if f.takesValue then .ok ([.attached f value], none)
    else if value.isEmpty || isLong name then .error (.valueIgnored f value)
    else readLetters flags f value

def read (flags : List Flag) : List (Text × Role) → Reading
  | [] => ⟨[], .ok []⟩
  | (_, .flag f name attached) :: rest =>
    match readWord flags f name attached with
    | .error refusal => .stop refusal
    | .ok (uses, none) => uses.foldr (fun u r => r.use u.flag u.value) (read flags rest)
    | .ok (uses, some waiting) =>
      let tail := match rest with
        | (word, .plain) :: rest => (read flags rest).use waiting (some word)
        | _ => .stop (.valueMissing waiting)
      uses.foldr (fun u r => r.use u.flag u.value) tail
  | (word, _) :: rest => (read flags rest).leave word

def readLine (flags : List Flag) (words : List Text) : Reading :=
  match rolesOf flags words with
  | .error refusal => .stop refusal
  | .ok roles => read flags roles

end CrossShader.Arguments
