/-!
# UTF-8

`Utf8.decode` reads bytes as UTF-8 and, where they are not, says how far they are and how many
bytes the first bad sequence has. The bytes that may follow a lead byte are those of the standard's
table of well-formed sequences, so overlong forms, surrogates and values past the last code point
are found at the first byte that no well-formed sequence has there.
-/

namespace KnxExport.Utf8

/-- Where bytes stop being UTF-8. -/
structure Fault where
  /-- The number of bytes before the fault, all of them well-formed. -/
  validUpTo : Nat
  /-- The length of the bad sequence, or nothing if the bytes only end too early. -/
  length? : Option Nat
  deriving DecidableEq, Repr

/-- The fault in words. -/
def Fault.message (fault : Fault) : String :=
  match fault.length? with
  | some length =>
    "invalid utf-8 sequence of " ++ toString length ++ " bytes from index " ++
      toString fault.validUpTo
  | none => "incomplete utf-8 byte sequence from index " ++ toString fault.validUpTo

/-- The bytes from the first to the second, both included. -/
abbrev ByteRange := UInt8 × UInt8

/-- The byte lies in the range. -/
def ByteRange.contains (range : ByteRange) (b : UInt8) : Bool :=
  range.1 ≤ b && b ≤ range.2

/-- The bytes that continue a sequence where nothing narrows them. -/
def continuation : ByteRange := (0x80, 0xbf)

/-- The ranges of the bytes that have to follow a lead byte; nothing for a byte that leads no
sequence. -/
def followers? (b : UInt8) : Option (List ByteRange) :=
  if b ≤ 0x7f then some []
  else if b < 0xc2 then none
  else if b ≤ 0xdf then some [continuation]
  else if b = 0xe0 then some [(0xa0, 0xbf), continuation]
  else if b = 0xed then some [(0x80, 0x9f), continuation]
  else if b ≤ 0xef then some [continuation, continuation]
  else if b = 0xf0 then some [(0x90, 0xbf), continuation, continuation]
  else if b ≤ 0xf3 then some [continuation, continuation, continuation]
  else if b = 0xf4 then some [(0x80, 0x8f), continuation, continuation]
  else none

/-- The bits of the code point that a lead byte holds, by the number of bytes that follow it. -/
def leadBits (b : UInt8) (following : Nat) : Nat :=
  if following = 0 then b.toNat else b.toNat % (1 <<< (6 - following))

/-- A sequence of which some bytes have been read. -/
structure Pending where
  /-- The bits of the code point so far. -/
  bits : Nat
  /-- The number of bytes so far. -/
  length : Nat
  /-- The ranges of the bytes to come. -/
  ranges : List ByteRange
  deriving Repr

/-- Reads the bytes after `valid` well-formed ones and the sequence `pending`, if one is open. -/
def decodeFrom (valid : Nat) : Option Pending → List UInt8 → Except Fault (List Char)
  | none, [] => .ok []
  | some _, [] => .error ⟨valid, none⟩
  | none, b :: bytes =>
    match followers? b with
    | none => .error ⟨valid, some 1⟩
    | some [] => (Char.ofNat b.toNat :: ·) <$> decodeFrom (valid + 1) none bytes
    | some ranges => decodeFrom valid (some ⟨leadBits b ranges.length, 1, ranges⟩) bytes
  | some ⟨bits, length, range :: ranges⟩, b :: bytes =>
    if range.contains b then
      let bits := bits * 64 + b.toNat % 64
      match ranges with
      | [] => (Char.ofNat bits :: ·) <$> decodeFrom (valid + length + 1) none bytes
      | _ => decodeFrom valid (some ⟨bits, length + 1, ranges⟩) bytes
    else .error ⟨valid, some length⟩
  | some ⟨_, length, []⟩, _ :: _ => .error ⟨valid, some length⟩

/-- The text that the bytes encode. -/
def decode (bytes : List UInt8) : Except Fault String :=
  String.ofList <$> decodeFrom 0 none bytes

/-- The bytes of a text. -/
def encode (text : String) : List UInt8 :=
  text.toList.flatMap String.utf8EncodeChar

/-- The byte order mark. -/
def mark : List UInt8 := [0xef, 0xbb, 0xbf]

/-- The bytes start with a byte order mark. -/
def hasMark (bytes : List UInt8) : Bool :=
  mark.isPrefixOf bytes

/-- The bytes without one leading byte order mark. -/
def dropMark (bytes : List UInt8) : List UInt8 :=
  if hasMark bytes then bytes.drop mark.length else bytes

end KnxExport.Utf8
