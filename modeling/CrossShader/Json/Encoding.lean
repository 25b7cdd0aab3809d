import CrossShader.Json.Parser
import CrossShader.Text.Utf8

/-!
JSON texts as bytes. The encoding is told by a byte order mark or by where the first bytes are zero,
and surrogates are let through in every one of them.
-/
namespace CrossShader.Json
open Text

inductive ByteOrder where
  | bigEndian
  | littleEndian
  deriving DecidableEq, Repr

inductive Encoding where
  | utf8
  | utf16 (order : ByteOrder)
  | utf32 (order : ByteOrder)
  deriving DecidableEq, Repr

def detect : Bytes → Encoding × Bytes
  | 0 :: 0 :: 0xFE :: 0xFF :: rest => (.utf32 .bigEndian, rest)
  | 0xFF :: 0xFE :: 0 :: 0 :: rest => (.utf32 .littleEndian, rest)
  | 0xFE :: 0xFF :: rest => (.utf16 .bigEndian, rest)
  | 0xFF :: 0xFE :: rest => (.utf16 .littleEndian, rest)
  | 0xEF :: 0xBB :: 0xBF :: rest => (.utf8, rest)
  | [a, b] =>
    (if a = 0 then .utf16 .bigEndian else if b = 0 then .utf16 .littleEndian else .utf8, [a, b])
  | a :: b :: c :: d :: rest =>
    let whole := a :: b :: c :: d :: rest
    if a = 0 then (if b = 0 then .utf32 .bigEndian else .utf16 .bigEndian, whole)
    else if b = 0 then
      (if c = 0 && d = 0 then .utf32 .littleEndian else .utf16 .littleEndian, whole)
    else (.utf8, whole)
  | bytes => (.utf8, bytes)

def surrogate? (lead : UInt8) : Bytes → Option CodePoint
  | b :: c :: _ =>
    if lead = 0xED && 0xA0 ≤ b && Utf8.isContinuation b && Utf8.isContinuation c then
      some (0xD000 + Utf8.low6 b * 64 + Utf8.low6 c)
    else none
  | _ => none

/-- UTF-8 with surrogates in three bytes. -/
def decodeUtf8? : Bytes → Option Text
  | [] => some []
  | b :: rest =>
    match Utf8.piece b rest with
    | .scalar c width => (decodeUtf8? (rest.drop (width - 1))).map (c :: ·)
    | .flawed _ _ =>
      match surrogate? b rest with
      | some c => (decodeUtf8? (rest.drop 2)).map (c :: ·)
      | none => none
termination_by bytes => bytes.length
decreasing_by all_goals exact length_drop_lt _ _ _

def units16? (order : ByteOrder) : Bytes → Option (List Nat)
  | [] => some []
  | [_] => none
  | a :: b :: rest =>
    let unit := match order with
      | .bigEndian => a.toNat * 256 + b.toNat
      | .littleEndian => b.toNat * 256 + a.toNat
    (units16? order rest).map (unit :: ·)

def joinPairs : List Nat → Text
  | [] => []
  | [u] => [u]
  | u :: v :: rest =>
    if isHighSurrogate u && isLowSurrogate v then joinSurrogates u v :: joinPairs rest
    else u :: joinPairs (v :: rest)

def units32? (order : ByteOrder) : Bytes → Option Text
  | [] => some []
  | a :: b :: c :: d :: rest =>
    let unit := match order with
      | .bigEndian => ((a.toNat * 256 + b.toNat) * 256 + c.toNat) * 256 + d.toNat
      | .littleEndian => ((d.toNat * 256 + c.toNat) * 256 + b.toNat) * 256 + a.toNat
    if unit < 0x110000 then (units32? order rest).map (unit :: ·) else none
  | _ => none

def decode? (bytes : Bytes) : Option Text :=
  match detect bytes with
  | (.utf8, rest) => decodeUtf8? rest
  | (.utf16 order, rest) => (units16? order rest).map joinPairs
  | (.utf32 order, rest) => units32? order rest

end CrossShader.Json
