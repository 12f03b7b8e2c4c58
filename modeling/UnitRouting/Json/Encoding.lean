import UnitRouting.Json.Reader
import UnitRouting.Text.Utf8

/-! # Encodings of JSON documents

A document that comes as bytes is in UTF-8, UTF-16 or UTF-32. A mark at its front tells which, or
else the zeros among its first bytes do, because a document begins with ASCII. Surrogates without
their partners are let through. -/

namespace UnitRouting.Json

/-- The order of the bytes of a unit. -/
inductive ByteOrder where
  | big
  | little
  deriving DecidableEq

/-- How bytes write a document. -/
inductive Encoding where
  | utf8
  | utf16 (order : ByteOrder)
  | utf32 (order : ByteOrder)
  deriving DecidableEq

/-- The marks that encodings begin with. One mark begins another, so the longer comes first. -/
def marks : List (Bytes × Encoding) :=
  [([0x00, 0x00, 0xFE, 0xFF], .utf32 .big), ([0xFF, 0xFE, 0x00, 0x00], .utf32 .little),
    ([0xFE, 0xFF], .utf16 .big), ([0xFF, 0xFE], .utf16 .little), ([0xEF, 0xBB, 0xBF], .utf8)]

/-- The encoding that the zeros at the front of a document without a mark imply. -/
def Encoding.ofZeros : Bytes → Encoding
  | a :: b :: c :: d :: _ =>
    if a = 0 then if b = 0 then .utf32 .big else .utf16 .big
    else if b = 0 then if c = 0 ∧ d = 0 then .utf32 .little else .utf16 .little
    else .utf8
  | [a, b] => if a = 0 then .utf16 .big else if b = 0 then .utf16 .little else .utf8
  | _ => .utf8

/-- The encoding of a document, and its bytes after the mark. -/
def detect (bytes : Bytes) : Encoding × Bytes :=
  match marks.find? fun (mark, _) => mark.isPrefixOf bytes with
  | some (mark, encoding) => (encoding, bytes.drop mark.length)
  | none => (.ofZeros bytes, bytes)

/-- The number that the bytes of a unit write. -/
def ByteOrder.value (order : ByteOrder) (unit : Bytes) : Nat :=
  let digits := unit.map UInt8.toNat
  Text.baseValue 256 (match order with
    | .big => digits
    | .little => digits.reverse)

/-- The units of two bytes, if none is left over. -/
def units16? (order : ByteOrder) : Bytes → Option (List Nat)
  | [] => some []
  | a :: b :: rest => (units16? order rest).map (order.value [a, b] :: ·)
  | [_] => none

/-- The units of four bytes, if none is left over. -/
def units32? (order : ByteOrder) : Bytes → Option (List Nat)
  | [] => some []
  | a :: b :: c :: d :: rest => (units32? order rest).map (order.value [a, b, c, d] :: ·)
  | _ => none

/-- The code points of units of UTF-16: a high surrogate joins a low one behind it. -/
def joinPairs : List Nat → Text
  | [] => []
  | [unit] => [.ofNat unit]
  | unit :: next :: rest =>
    if isHighSurrogate unit && isLowSurrogate next then pairValue unit next :: joinPairs rest
    else .ofNat unit :: joinPairs (next :: rest)

/-- The code points of units of UTF-32, if all are numbers of code points. -/
def points? (units : List Nat) : Option Text :=
  units.mapM fun unit => if h : unit < 0x110000 then some ⟨unit, h⟩ else none

/-- Decodes bytes in an encoding. -/
def Encoding.decode? : Encoding → Bytes → Option Text
  | .utf8, bytes => Utf8.decodeWithSurrogates? bytes
  | .utf16 order, bytes => (units16? order bytes).map joinPairs
  | .utf32 order, bytes => (units32? order bytes).bind points?

/-- The text of a document that comes as bytes. -/
def decodeBytes? (bytes : Bytes) : Option Text :=
  let (encoding, rest) := detect bytes
  encoding.decode? rest

end UnitRouting.Json
