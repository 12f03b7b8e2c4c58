import UnitRouting.Text.Basic

/-! # UTF-8

Bytes are read as a row of pieces. A piece is a code point, or a flaw: the longest run of bytes that
could begin a code point but is not continued as one. Strict decoding stops at the first flaw;
decoding with replacement puts U+FFFD for each. -/

namespace UnitRouting

abbrev Bytes := List UInt8

namespace Utf8

/-- Why bytes write no code point. -/
inductive Flaw where
  | badStart
  | badContinuation
  | truncated
  deriving DecidableEq

def Flaw.message : Flaw → Text
  | .badStart => "invalid start byte"
  | .badContinuation => "invalid continuation byte"
  | .truncated => "unexpected end of data"

/-- Bytes that are read together: what they write, and how many follow the first of them. -/
structure Piece where
  reading : Except Flaw CodePoint
  extra : Nat

/-- What a first byte announces: how many bytes continue it, the bounds of the first of those, and
    the bits that the first byte contributes. -/
structure Lead where
  count : Nat
  low : Nat
  high : Nat
  bits : Nat

/-- Reads a first byte. The bounds leave out longer forms than needed, numbers beyond the last code
    point, and surrogates unless they are let through. -/
def lead? (surrogates : Bool) (b : Nat) : Option Lead :=
  if b < 0x80 then some ⟨0, 0x80, 0xBF, b⟩
  else if b < 0xC2 then none
  else if b < 0xE0 then some ⟨1, 0x80, 0xBF, b - 0xC0⟩
  else if b < 0xF0 then
    some ⟨2, if b = 0xE0 then 0xA0 else 0x80, if b = 0xED ∧ surrogates = false then 0x9F else 0xBF,
      b - 0xE0⟩
  else if b < 0xF5 then
    some ⟨3, if b = 0xF0 then 0x90 else 0x80, if b = 0xF4 then 0x8F else 0xBF, b - 0xF0⟩
  else none

/-- Reads `count` continuing bytes, the first of them within bounds, after `used` others. -/
def readTail (low high : Nat) : Nat → Nat → Nat → Bytes → Piece
  | 0, used, bits, _ => ⟨.ok (.ofNat bits), used⟩
  | _ + 1, used, _, [] => ⟨.error .truncated, used⟩
  | count + 1, used, bits, b :: rest =>
    if low ≤ b.toNat ∧ b.toNat ≤ high then
      readTail 0x80 0xBF count (used + 1) (64 * bits + (b.toNat - 0x80)) rest
    else ⟨.error .badContinuation, used⟩

/-- The piece that begins with a byte. -/
def piece (surrogates : Bool) (b : UInt8) (rest : Bytes) : Piece :=
  match lead? surrogates b.toNat with
  | none => ⟨.error .badStart, 0⟩
  | some lead => readTail lead.low lead.high lead.count 0 lead.bits rest

/-- The pieces after the first `skip` bytes. -/
def piecesAfter (surrogates : Bool) : Nat → Bytes → List Piece
  | _, [] => []
  | skip + 1, _ :: rest => piecesAfter surrogates skip rest
  | 0, b :: rest =>
    let next := piece surrogates b rest
    next :: piecesAfter surrogates next.extra rest

/-- The pieces that make up all bytes. -/
def pieces (surrogates : Bool) (bytes : Bytes) : List Piece := piecesAfter surrogates 0 bytes

/-- Flawed bytes, and how many others stand in front of them. -/
structure DecodeError where
  offset : Nat
  bytes : Bytes
  flaw : Flaw
  deriving DecidableEq

/-- The wording of an error: a single byte is shown, several are told by their positions. -/
def DecodeError.message (error : DecodeError) : Text :=
  let place : Text :=
    match error.bytes with
    | [b] => "byte 0x" ++ Text.ofHex 2 b.toNat ++ " in position " ++ Text.ofNat error.offset
    | bytes =>
      "bytes in position " ++ Text.ofNat error.offset ++ "-"
        ++ Text.ofNat (error.offset + bytes.length - 1)
  "'utf-8' codec can't decode " ++ place ++ ": " ++ error.flaw.message

/-- The text of pieces, the first of which begins after `offset` bytes of all. -/
def textFrom (all : Bytes) (offset : Nat) : List Piece → Except DecodeError Text
  | [] => .ok []
  | next :: rest =>
    match next.reading with
    | .ok c => (textFrom all (offset + next.extra + 1) rest).map (c :: ·)
    | .error flaw => .error ⟨offset, (all.drop offset).take (next.extra + 1), flaw⟩

/-- Decodes bytes that have no flaws. -/
def decode (bytes : Bytes) : Except DecodeError Text := textFrom bytes 0 (pieces false bytes)

/-- Decodes bytes that have no flaws, if surrogates are let through. -/
def decodeWithSurrogates? (bytes : Bytes) : Option Text :=
  (pieces true bytes).mapM (·.reading.toOption)

/-- Decodes any bytes; each flaw becomes U+FFFD. -/
def decodeReplacing (bytes : Bytes) : Text :=
  (pieces false bytes).map fun next =>
    match next.reading with
    | .ok c => c
    | .error _ => .replacement

/-- The bytes of a code point; a surrogate has three like its neighbours. -/
def encodePoint (c : CodePoint) : Bytes :=
  let tail (scale : Nat) : UInt8 := .ofNat (0x80 + c.val / scale % 64)
  if c.val < 0x80 then [.ofNat c.val]
  else if c.val < 0x800 then [.ofNat (0xC0 + c.val / 64), tail 1]
  else if c.val < 0x10000 then [.ofNat (0xE0 + c.val / 0x1000), tail 64, tail 1]
  else [.ofNat (0xF0 + c.val / 0x40000), tail 0x1000, tail 64, tail 1]

/-- The bytes of a text. -/
def encode (t : Text) : Bytes := t.flatMap encodePoint

end Utf8

end UnitRouting
