/-! # Text

Text is a list of code points. Unlike `String` it can hold a surrogate without its partner,
which the escapes of JSON are able to write. -/

namespace UnitRouting

/-- A code point: any number below `0x110000`, surrogates included. -/
structure CodePoint where
  val : Nat
  isLt : val < 0x110000
  deriving DecidableEq

namespace CodePoint

def ofChar (c : Char) : CodePoint :=
  ⟨c.toNat, by
    have valid := c.valid
    simp only [UInt32.isValidChar, Nat.isValidChar] at valid
    have same : c.toNat = c.val.toNat := rfl
    omega⟩

instance : Coe Char CodePoint := ⟨ofChar⟩

/-- U+FFFD, which stands for what cannot be decoded. -/
def replacement : CodePoint := ⟨0xFFFD, by decide⟩

/-- The code point of a number; a number beyond the last code point gives the replacement. -/
def ofNat (n : Nat) : CodePoint :=
  if h : n < 0x110000 then ⟨n, h⟩ else replacement

def isBetween (low high : Char) (c : CodePoint) : Bool :=
  decide (low.toNat ≤ c.val) && decide (c.val ≤ high.toNat)

/-- The ASCII digits `0` to `9`. -/
def isDigit (c : CodePoint) : Bool := c.isBetween '0' '9'

/-- The value of an ASCII digit. -/
def digit? (c : CodePoint) : Option Nat :=
  if c.isDigit then some (c.val - 48) else none

/-- The value of a hexadecimal digit, in either case. -/
def hexDigit? (c : CodePoint) : Option Nat :=
  if c.isDigit then some (c.val - 48)
  else if c.isBetween 'a' 'f' then some (c.val - 87)
  else if c.isBetween 'A' 'F' then some (c.val - 55)
  else none

def isAsciiLetter (c : CodePoint) : Bool := c.isBetween 'a' 'z' || c.isBetween 'A' 'Z'

def isSurrogate (c : CodePoint) : Bool := decide (0xD800 ≤ c.val) && decide (c.val ≤ 0xDFFF)

/-- The ASCII digit of a number below ten. -/
def ofDigit (d : Nat) : CodePoint := ofNat (48 + d)

/-- The lower-case hexadecimal digit of a number below sixteen. -/
def ofHexDigit (d : Nat) : CodePoint := if d < 10 then ofNat (48 + d) else ofNat (87 + d)

end CodePoint

/-- A list of code points. -/
abbrev Text := List CodePoint

namespace Text

def ofString (s : String) : Text := s.toList.map CodePoint.ofChar

instance : Coe String Text := ⟨ofString⟩

/-- `part` occurs in the text somewhere. -/
def includes (part : Text) : Text → Bool
  | [] => part.isEmpty
  | c :: rest => part.isPrefixOf (c :: rest) || includes part rest

/-- The pieces between the separators: always one more than there are separators. -/
def splitOn (separator : CodePoint) : Text → List Text
  | [] => [[]]
  | c :: rest =>
    if c = separator then [] :: splitOn separator rest
    else match splitOn separator rest with
      | [] => [[c]]
      | piece :: pieces => (c :: piece) :: pieces

/-- The pieces with `separator` between neighbours. -/
def join (separator : Text) : List Text → Text
  | [] => []
  | [piece] => piece
  | piece :: pieces => piece ++ separator ++ join separator pieces

/-- The text without the code points of a class at its two ends. -/
def trim (skip : CodePoint → Bool) (t : Text) : Text :=
  ((t.dropWhile skip).reverse.dropWhile skip).reverse

/-- Lexicographic order by code point. -/
def le : Text → Text → Bool
  | [], _ => true
  | _ :: _, [] => false
  | a :: as, b :: bs =>
    if a.val < b.val then true else if b.val < a.val then false else le as bs

/-- Ascending order by code point. -/
def sorted (texts : List Text) : List Text := texts.mergeSort le

/-- Puts the decimal digits of `n` in front of `rest`. -/
def digitsOnto (n : Nat) (rest : Text) : Text :=
  if n < 10 then CodePoint.ofDigit n :: rest
  else digitsOnto (n / 10) (CodePoint.ofDigit (n % 10) :: rest)

/-- The decimal digits of a natural number, without leading zeros. -/
def ofNat (n : Nat) : Text := digitsOnto n []

/-- The decimal digits of an integer, after a minus sign if it is negative. -/
def ofInt : Int → Text
  | .ofNat n => ofNat n
  | .negSucc n => CodePoint.ofChar '-' :: ofNat (n + 1)

/-- The last `width` hexadecimal digits of a number. -/
def ofHex (width n : Nat) : Text :=
  match width with
  | 0 => []
  | width + 1 => ofHex width (n / 16) ++ [CodePoint.ofHexDigit (n % 16)]

/-- The number that decimal digits write. -/
def digitsValue (digits : List Nat) : Nat := digits.foldl (fun n d => 10 * n + d) 0

/-- The number that digits of a base write. -/
def baseValue (base : Nat) (digits : List Nat) : Nat := digits.foldl (fun n d => base * n + d) 0

end Text

end UnitRouting
