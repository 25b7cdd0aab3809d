import CrossShader.Text.Basic

/-!
UTF-8 in both directions. A reader stops at the first flaw, which is a longest beginning of a
well-formed sequence that cannot go on, and either reports it or puts one replacement character in
its place.
-/
namespace CrossShader

abbrev Bytes := List UInt8

namespace Utf8
open Text

/-- Surrogates in a row at code point `start`, `first` the first of them. -/
structure EncodeError where
  first : CodePoint
  start : Nat
  length : Nat
  deriving DecidableEq, Repr

def encodeChar (c : CodePoint) : Bytes :=
  if c < 0x80 then [c.toUInt8]
  else if c < 0x800 then [(0xC0 + c / 64).toUInt8, (0x80 + c % 64).toUInt8]
  else if c < 0x10000 then
    [(0xE0 + c / 4096).toUInt8, (0x80 + c / 64 % 64).toUInt8, (0x80 + c % 64).toUInt8]
  else
    [(0xF0 + c / 262144).toUInt8, (0x80 + c / 4096 % 64).toUInt8, (0x80 + c / 64 % 64).toUInt8,
      (0x80 + c % 64).toUInt8]

/-- The bytes of a text, or its first run of code points that are no scalar values. -/
def encode (t : Text) : Except EncodeError Bytes :=
  match t.dropWhile isScalar with
  | [] => .ok (t.flatMap encodeChar)
  | c :: rest =>
    .error ⟨c, (t.takeWhile isScalar).length, ((c :: rest).takeWhile (!isScalar ·)).length⟩

inductive Flaw where
  | badStart
  | badContinuation
  | cutShort
  deriving DecidableEq, Repr

/-- A flaw of `width` bytes from byte `start` on, `first` the byte there. -/
structure DecodeError where
  flaw : Flaw
  first : UInt8
  start : Nat
  width : Nat
  deriving DecidableEq, Repr

inductive Piece where
  | scalar (c : CodePoint) (width : Nat)
  | flawed (flaw : Flaw) (width : Nat)
  deriving DecidableEq, Repr

def isContinuation (b : UInt8) : Bool := 0x80 ≤ b && b ≤ 0xBF

def low6 (b : UInt8) : Nat := b.toNat % 64

/-- The second byte of a sequence of three or more has a range of its own after some lead bytes:
it excludes overlong forms, surrogates and numbers above U+10FFFF. -/
def fitsSecond (lead b : UInt8) : Bool :=
  isContinuation b &&
    (lead != 0xE0 || 0xA0 ≤ b) && (lead != 0xED || b ≤ 0x9F) &&
    (lead != 0xF0 || 0x90 ≤ b) && (lead != 0xF4 || b ≤ 0x8F)

def pieceOfTwo (lead : UInt8) : Bytes → Piece
  | [] => .flawed .cutShort 1
  | b :: _ =>
    if isContinuation b then .scalar (lead.toNat % 32 * 64 + low6 b) 2
    else .flawed .badContinuation 1

def pieceOfThree (lead : UInt8) : Bytes → Piece
  | [] => .flawed .cutShort 1
  | b :: rest =>
    if !fitsSecond lead b then .flawed .badContinuation 1
    else match rest with
      | [] => .flawed .cutShort 2
      | c :: _ =>
        if isContinuation c then .scalar (lead.toNat % 16 * 4096 + low6 b * 64 + low6 c) 3
        else .flawed .badContinuation 2

def pieceOfFour (lead : UInt8) : Bytes → Piece
  | [] => .flawed .cutShort 1
  | b :: rest =>
    if !fitsSecond lead b then .flawed .badContinuation 1
    else match rest with
      | [] => .flawed .cutShort 2
      | c :: rest =>
        if !isContinuation c then .flawed .badContinuation 2
        else match rest with
          | [] => .flawed .cutShort 3
          | d :: _ =>
            if isContinuation d then
              .scalar (lead.toNat % 8 * 262144 + low6 b * 4096 + low6 c * 64 + low6 d) 4
            else .flawed .badContinuation 3

def piece (lead : UInt8) (rest : Bytes) : Piece :=
  if lead < 0x80 then .scalar lead.toNat 1
  else if lead < 0xC2 then .flawed .badStart 1
  else if lead < 0xE0 then pieceOfTwo lead rest
  else if lead < 0xF0 then pieceOfThree lead rest
  else if lead < 0xF5 then pieceOfFour lead rest
  else .flawed .badStart 1

def decodeFrom (start : Nat) : Bytes → Except DecodeError Text
  | [] => .ok []
  | b :: rest =>
    match piece b rest with
    | .scalar c width => do
      let t ← decodeFrom (start + width) (rest.drop (width - 1))
      .ok (c :: t)
    | .flawed flaw width => .error ⟨flaw, b, start, width⟩
termination_by bytes => bytes.length
decreasing_by exact length_drop_lt _ _ _

def decode (bytes : Bytes) : Except DecodeError Text := decodeFrom 0 bytes

def replacement : CodePoint := 0xFFFD

def decodeLossy : Bytes → Text
  | [] => []
  | b :: rest =>
    match piece b rest with
    | .scalar c width => c :: decodeLossy (rest.drop (width - 1))
    | .flawed _ width => replacement :: decodeLossy (rest.drop (width - 1))
termination_by bytes => bytes.length
decreasing_by all_goals exact length_drop_lt _ _ _

end Utf8
end CrossShader
