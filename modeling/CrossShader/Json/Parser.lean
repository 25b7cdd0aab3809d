import CrossShader.Decimal.Numeral
import CrossShader.Json.Basic

/-!
Reading JSON texts. The two infinities and the number that is none are accepted, raw control
characters in strings are not, and a surrogate escape may stand alone. A flaw is reported by how
much of the text is left where it shows. How deep values may be nested is up to the caller.
-/
namespace CrossShader.Json
open Text

inductive Flaw where
  | unreadable (left : Nat)
  | integerTooLong
  | tooDeep
  deriving DecidableEq, Repr

abbrev Reader (α : Type) := Text → Except Flaw (α × Text)

def isSpace (c : CodePoint) : Bool := c == 32 || c == 9 || c == 10 || c == 13

def skipSpace (t : Text) : Text := t.dropWhile isSpace

def isHighSurrogate (c : CodePoint) : Bool := 0xD800 ≤ c && c ≤ 0xDBFF

def isLowSurrogate (c : CodePoint) : Bool := 0xDC00 ≤ c && c ≤ 0xDFFF

def joinSurrogates (high low : CodePoint) : CodePoint :=
  0x10000 + (high - 0xD800) * 0x400 + (low - 0xDC00)

def hexValue? (c : CodePoint) : Option Nat :=
  if 48 ≤ c && c ≤ 57 then some (c - 48)
  else if 97 ≤ c && c ≤ 102 then some (c - 87)
  else if 65 ≤ c && c ≤ 70 then some (c - 55)
  else none

def hex4? : Text → Option Nat
  | a :: b :: c :: d :: _ => do
    let a ← hexValue? a
    let b ← hexValue? b
    let c ← hexValue? c
    let d ← hexValue? d
    some (a * 4096 + b * 256 + c * 16 + d)
  | _ => none

def simpleEscape? (c : CodePoint) : Option CodePoint :=
  [(34, 34), (92, 92), (47, 47), (98, 8), (102, 12), (110, 10), (114, 13), (116, 9)].lookup c

/-- A numeric escape after its letter: the code point and how much of the text it takes. A string
cannot end with the digits, so one more code point must follow them. -/
def numericEscape (t : Text) : Except Flaw (CodePoint × Nat) :=
  match hex4? t with
  | none => .error (.unreadable (t.length + 1))
  | some high =>
    if (t.drop 4).isEmpty then .error (.unreadable (t.length + 1))
    else match t.drop 4 with
      | 92 :: 117 :: rest =>
        if !isHighSurrogate high || (rest.drop 4).isEmpty then .ok (high, 4)
        else match hex4? rest with
          | none => .error (.unreadable (rest.length + 1))
          | some low =>
            if isLowSurrogate low then .ok (joinSurrogates high low, 10) else .ok (high, 4)
      | _ => .ok (high, 4)

def escape (opening : Nat) : Text → Except Flaw (CodePoint × Nat)
  | [] => .error (.unreadable opening)
  | 117 :: rest => (numericEscape rest).map fun (c, width) => (c, width + 1)
  | c :: rest =>
    match simpleEscape? c with
    | some e => .ok (e, 1)
    | none => .error (.unreadable (rest.length + 2))

def readString (opening : Nat) : Reader Text
  | [] => .error (.unreadable opening)
  | c :: rest =>
    if c = 34 then .ok ([], rest)
    else if c = 92 then do
      let (e, width) ← escape opening rest
      let (t, rest) ← readString opening (rest.drop width)
      .ok (e :: t, rest)
    else if c < 32 then .error (.unreadable (rest.length + 1))
    else do
      let (t, rest) ← readString opening rest
      .ok (c :: t, rest)
termination_by t => t.length
decreasing_by
  · exact length_drop_lt _ _ _
  · exact Nat.lt_succ_self _

def splitDigits (t : Text) : Text × Text :=
  (t.takeWhile Numeral.isDigit, t.dropWhile Numeral.isDigit)

def splitWhole : Text → Text × Text
  | 48 :: rest => ([48], rest)
  | t => splitDigits t

def splitFraction : Text → Text × Text
  | 46 :: rest =>
    let (digits, tail) := splitDigits rest
    if digits.isEmpty then ([], 46 :: rest) else (digits, tail)
  | t => ([], t)

def splitExponent? : Text → Option Int × Text
  | [] => (none, [])
  | c :: rest =>
    let (negative, r) := Numeral.splitSign rest
    let (digits, tail) := splitDigits r
    if lowerAscii c ≠ 101 || digits.isEmpty then (none, c :: rest)
    else
      let power : Int := Numeral.valueOf digits
      (some (if negative then -power else power), tail)

def readNumber : Reader Json := fun t =>
  let (negative, unsigned) := match t with
    | 45 :: rest => (true, rest)
    | _ => (false, t)
  let (whole, rest) := splitWhole unsigned
  let (fraction, rest) := splitFraction rest
  let (power?, rest) := splitExponent? rest
  if whole.isEmpty then .error (.unreadable t.length)
  else if fraction.isEmpty && power?.isNone then
    if Numeral.mostDigits < whole.length then .error .integerTooLong
    else
      let n : Int := Numeral.valueOf whole
      .ok (.integer (if negative then -n else n), rest)
  else
    let power := power?.getD 0 - fraction.length
    .ok (.number (.ofDecimal negative (Numeral.valueOf (whole ++ fraction)) power), rest)

def words : List (Text × Json) :=
  [(text "null", .null), (text "true", .bool true), (text "false", .bool false),
    (text "NaN", .number .nan), (text "Infinity", .number (.infinite false)),
    (text "-Infinity", .number (.infinite true))]

def readWordOrNumber : Reader Json := fun t =>
  match words.find? fun word => word.1.isPrefixOf t with
  | some (word, value) => .ok (value, t.drop word.length)
  | none => readNumber t

mutual

/-- Reads one value in which `depth` objects and arrays may lie in one another. Twice the length of
the text is enough fuel: a value hands its text to its members at most once before a code point is
consumed. -/
def readValue (depth : Nat) : Nat → Reader Json
  | 0, t => .error (.unreadable t.length)
  | fuel + 1, t =>
    match t, depth with
    | 34 :: rest, _ => do
      let (s, rest) ← readString t.length rest
      .ok (.string s, rest)
    | 123 :: _, 0 => .error .tooDeep
    | 123 :: rest, depth + 1 =>
      match skipSpace rest with
      | 125 :: rest => .ok (.object [], rest)
      | rest => do
        let (members, rest) ← readMembers depth fuel rest
        .ok (.object (Table.ofList members), rest)
    | 91 :: _, 0 => .error .tooDeep
    | 91 :: rest, depth + 1 =>
      match skipSpace rest with
      | 93 :: rest => .ok (.array [], rest)
      | rest => do
        let (items, rest) ← readItems depth fuel rest
        .ok (.array items, rest)
    | _, _ => readWordOrNumber t

def readMembers (depth : Nat) : Nat → Reader (List (Text × Json))
  | 0, t => .error (.unreadable t.length)
  | fuel + 1, t =>
    match t with
    | 34 :: rest => do
      let (key, rest) ← readString t.length rest
      match skipSpace rest with
      | 58 :: rest => do
        let (value, rest) ← readValue depth fuel (skipSpace rest)
        match skipSpace rest with
        | 125 :: rest => .ok ([(key, value)], rest)
        | 44 :: rest => do
          let (members, rest) ← readMembers depth fuel (skipSpace rest)
          .ok ((key, value) :: members, rest)
        | rest => .error (.unreadable rest.length)
      | rest => .error (.unreadable rest.length)
    | _ => .error (.unreadable t.length)

def readItems (depth : Nat) : Nat → Reader (List Json)
  | 0, t => .error (.unreadable t.length)
  | fuel + 1, t => do
    let (item, rest) ← readValue depth fuel t
    match skipSpace rest with
    | 93 :: rest => .ok ([item], rest)
    | 44 :: rest => do
      let (items, rest) ← readItems depth fuel (skipSpace rest)
      .ok (item :: items, rest)
    | rest => .error (.unreadable rest.length)

end

inductive Failure where
  | malformed (offset : Nat)
  | integerTooLong
  | tooDeep
  deriving DecidableEq, Repr

def Flaw.failure (whole : Text) : Flaw → Failure
  | unreadable left => .malformed (whole.length - left)
  | integerTooLong => .integerTooLong
  | tooDeep => .tooDeep

/-- The value that a whole text holds, blanks around it allowed. Objects and arrays in one another
are read if there are `deepest` of them at most. -/
def parse (deepest : Nat) (t : Text) : Except Failure Json :=
  match readValue deepest (2 * t.length + 2) (skipSpace t) with
  | .error flaw => .error (flaw.failure t)
  | .ok (value, rest) =>
    match skipSpace rest with
    | [] => .ok value
    | rest => .error (.malformed (t.length - rest.length))

end CrossShader.Json
