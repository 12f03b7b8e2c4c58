import UnitRouting.Fault
import UnitRouting.Number.Layout
import UnitRouting.Value.Basic
import UnitRouting.Value.Loose

/-! # Reading JSON

A reader takes the text that is left and gives a value and what is left after it. A syntax error
holds the text from the offending place on, from which its position is worked out at the end.
Beyond the standard the reader knows `NaN`, `Infinity` and `-Infinity`, and an escape may write a
surrogate without its partner. -/

namespace UnitRouting.Json

/-- Why reading stops. -/
inductive ReadError where
  /-- A syntax error where `rest` begins. -/
  | malformed (error : JsonError) (rest : Text)
  | numeralTooLong

def isSpace (c : CodePoint) : Bool :=
  c.val == 0x20 || c.val == 0x09 || c.val == 0x0A || c.val == 0x0D

/-- The text after white space. -/
def skip (t : Text) : Text := t.dropWhile isSpace

/-- What a letter behind a backslash stands for. -/
def simpleEscape? (c : CodePoint) : Option CodePoint :=
  if c = '"' ∨ c = '\\' ∨ c = '/' then some c
  else if c = 'b' then some (.ofNat 8)
  else if c = 'f' then some (.ofNat 12)
  else if c = 'n' then some (.ofNat 10)
  else if c = 'r' then some (.ofNat 13)
  else if c = 't' then some (.ofNat 9)
  else none

/-- The number of four hexadecimal digits. -/
def hexUnit? (a b c d : CodePoint) : Option Nat := do
  let a ← a.hexDigit?
  let b ← b.hexDigit?
  let c ← c.hexDigit?
  let d ← d.hexDigit?
  return ((a * 16 + b) * 16 + c) * 16 + d

def isHighSurrogate (n : Nat) : Bool := decide (0xD800 ≤ n) && decide (n ≤ 0xDBFF)

def isLowSurrogate (n : Nat) : Bool := decide (0xDC00 ≤ n) && decide (n ≤ 0xDFFF)

/-- The code point that a surrogate pair encodes. -/
def pairValue (high low : Nat) : CodePoint :=
  .ofNat (0x10000 + (high - 0xD800) * 0x400 + (low - 0xDC00))

/-- Puts a code point in front of the text that is read. -/
def consText (c : CodePoint) : Except ReadError (Text × Text) → Except ReadError (Text × Text)
  | .ok (t, rest) => .ok (c :: t, rest)
  | .error e => .error e

/-- The low surrogate that an escape at the front of a text writes. -/
def lowEscape? : Text → Option Nat
  | backslash :: u :: a :: b :: c :: d :: _ :: _ =>
    if backslash = CodePoint.ofChar '\\' ∧ u = CodePoint.ofChar 'u' then
      (hexUnit? a b c d).filter isLowSurrogate
    else none
  | _ => none

/-- Reads a text up to its closing quote; `opening` is the text from the opening quote on. Four
    hexadecimal digits count only if something follows them, and two escapes that write a
    surrogate pair are one code point. -/
def readBody (opening : Text) : Text → Except ReadError (Text × Text)
  | [] => .error (.malformed .unterminatedText opening)
  | c :: rest =>
    if c = CodePoint.ofChar '"' then .ok ([], rest)
    else if c = CodePoint.ofChar '\\' then
      match rest with
      | [] => .error (.malformed .unterminatedText opening)
      | e :: after =>
        if e = CodePoint.ofChar 'u' then
          match after with
          | h₁ :: h₂ :: h₃ :: h₄ :: next :: tail =>
            match hexUnit? h₁ h₂ h₃ h₄ with
            | none => .error (.malformed .invalidHexEscape rest)
            | some unit =>
              match if isHighSurrogate unit then lowEscape? (next :: tail) else none with
              | some low => consText (pairValue unit low) (readBody opening (tail.drop 5))
              | none => consText (.ofNat unit) (readBody opening (next :: tail))
          | _ => .error (.malformed .invalidHexEscape rest)
        else match simpleEscape? e with
          | some d => consText d (readBody opening after)
          | none => .error (.malformed .invalidEscape (c :: rest))
    else if c.val ≤ 0x1F then .error (.malformed .controlCharacter (c :: rest))
    else consText c (readBody opening rest)
termination_by t => t.length

/-- The constants and what they stand for. -/
def constants : List (Text × Value) :=
  [("null", .null), ("true", .bool true), ("false", .bool false), ("NaN", .float .nan),
   ("Infinity", .float (.infinite false)), ("-Infinity", .float (.infinite true))]

/-- Reads a constant. -/
def constant? (t : Text) : Option (Value × Text) :=
  constants.findSome? fun (name, value) => (name.isPrefixOf? t).map fun rest => (value, rest)

/-- Reads digits that do not begin with a superfluous zero. -/
def wholeDigits? (t : Text) : Option (Text × Text) :=
  match t with
  | [] => none
  | c :: rest =>
    if c = CodePoint.ofChar '0' then some ([c], rest)
    else if c.isDigit then some (t.takeWhile CodePoint.isDigit, t.dropWhile CodePoint.isDigit)
    else none

/-- Reads a point and at least one digit, if they are there. -/
def fraction? (t : Text) : Option (Text × Text) :=
  match t with
  | c :: rest =>
    if c = CodePoint.ofChar '.' ∧ (rest.takeWhile CodePoint.isDigit).isEmpty = false then
      some (rest.takeWhile CodePoint.isDigit, rest.dropWhile CodePoint.isDigit)
    else none
  | [] => none

/-- Reads `e`, an optional sign and at least one digit, if they are there. -/
def exponent? (t : Text) : Option (Int × Text) :=
  match t with
  | c :: rest =>
    let (negative, digits) := Numeral.sign rest
    let power := digits.takeWhile CodePoint.isDigit
    if (c = CodePoint.ofChar 'e' ∨ c = CodePoint.ofChar 'E') ∧ power.isEmpty = false then
      let size : Int := Text.digitsValue (Numeral.digitValues power)
      some (if negative then -size else size, digits.dropWhile CodePoint.isDigit)
    else none
  | [] => none

/-- Reads a number: an integer if it has neither fraction nor exponent, and at most `limit` digits
    then. -/
def number? (limit : Option Nat) (t : Text) : Option (Except ReadError (Value × Text)) :=
  let (negative, unsigned) : Bool × Text :=
    match t with
    | c :: rest => if c = CodePoint.ofChar '-' then (true, rest) else (false, t)
    | [] => (false, t)
  (wholeDigits? unsigned).map fun (whole, rest) =>
    match fraction? rest, exponent? ((fraction? rest).elim rest (·.2)) with
    | none, none =>
      if limit.any (· < whole.length) then .error .numeralTooLong
      else
        let size : Int := Text.digitsValue (Numeral.digitValues whole)
        .ok (.int (if negative then -size else size), rest)
    | fraction, exponent =>
      let places := fraction.elim [] (·.1)
      let rest := exponent.elim (fraction.elim rest (·.2)) (·.2)
      let power := exponent.elim 0 (·.1) - (places.length : Int)
      let digits := Text.digitsValue (Numeral.digitValues (whole ++ places))
      .ok (.float (.ofDecimal negative digits power), rest)

mutual

/-- Reads a value. Each step down takes one of the `fuel`, of which the length of the text is
    enough. -/
def readValue (limit : Option Nat) : Nat → Text → Except ReadError (Value × Text)
  | 0, t => .error (.malformed .expectingValue t)
  | fuel + 1, t =>
    match t with
    | [] => .error (.malformed .expectingValue [])
    | c :: rest =>
      if c = CodePoint.ofChar '"' then do
        let (body, rest) ← readBody t rest
        return (.text body, rest)
      else if c = CodePoint.ofChar '\x7b' then
        match skip rest with
        | [] => .error (.malformed .expectingName [])
        | d :: after =>
          if d = CodePoint.ofChar '\x7d' then .ok (.object [], after)
          else do
            let (fields, rest) ← readFields limit fuel [] (d :: after)
            return (.object fields, rest)
      else if c = CodePoint.ofChar '[' then
        match skip rest with
        | [] => .error (.malformed .expectingValue [])
        | d :: after =>
          if d = CodePoint.ofChar ']' then .ok (.list [], after)
          else do
            let (items, rest) ← readItems limit fuel (d :: after)
            return (.list items, rest)
      else
        match constant? t with
        | some (value, rest) => .ok (value, rest)
        | none =>
          match number? limit t with
          | some result => result
          | none => .error (.malformed .expectingValue t)

/-- Reads the items of a list, of which at least one is left, and the closing bracket. -/
def readItems (limit : Option Nat) : Nat → Text → Except ReadError (List Value × Text)
  | 0, t => .error (.malformed .expectingValue t)
  | fuel + 1, t => do
    let (item, rest) ← readValue limit fuel t
    match skip rest with
    | [] => .error (.malformed .expectingComma [])
    | d :: after =>
      if d = CodePoint.ofChar ']' then .ok ([item], after)
      else if d = CodePoint.ofChar ',' then do
        let (items, rest) ← readItems limit fuel (skip after)
        return (item :: items, rest)
      else .error (.malformed .expectingComma (d :: after))

/-- Reads the fields of an object, of which at least one is left, and the closing brace, and adds
    them to those that were read before. -/
def readFields (limit : Option Nat) : Nat → Fields → Text → Except ReadError (Fields × Text)
  | 0, _, t => .error (.malformed .expectingName t)
  | fuel + 1, fields, t =>
    match t with
    | [] => .error (.malformed .expectingName [])
    | c :: rest =>
      if c = CodePoint.ofChar '"' then do
        let (name, rest) ← readBody t rest
        match skip rest with
        | [] => .error (.malformed .expectingColon [])
        | d :: after =>
          if d = CodePoint.ofChar ':' then do
            let (value, rest) ← readValue limit fuel (skip after)
            let fields := fields.set name value
            match skip rest with
            | [] => .error (.malformed .expectingComma [])
            | e :: last =>
              if e = CodePoint.ofChar '\x7d' then .ok (fields, last)
              else if e = CodePoint.ofChar ',' then readFields limit fuel fields (skip last)
              else .error (.malformed .expectingComma (e :: last))
          else .error (.malformed .expectingColon (d :: after))
      else .error (.malformed .expectingName t)

end

/-- Reads a whole document: one value with nothing but white space around it. -/
def readDocument (limit : Option Nat) (t : Text) : Except ReadError Value :=
  if (Text.ofString "\uFEFF").isPrefixOf t then .error (.malformed .byteOrderMark t)
  else do
    let (value, rest) ← readValue limit (2 * t.length + 1) (skip t)
    match skip rest with
    | [] => .ok value
    | extra => .error (.malformed .extraData extra)

/-- Where the `offset`-th code point of a text stands; only line feeds end lines. -/
def positionAt (t : Text) (offset : Nat) : Position :=
  let before := t.take offset
  { line := before.count (CodePoint.ofChar '\n') + 1
    column := (before.reverse.takeWhile (· != CodePoint.ofChar '\n')).length + 1
    offset := offset }

/-- Reads a document in which integers have at most `numeralLimit` digits. -/
def read (t : Text) : Except Fault Value :=
  match readDocument (some numeralLimit) t with
  | .ok value => .ok value
  | .error (.malformed error rest) => .error (.json error (positionAt t (t.length - rest.length)))
  | .error .numeralTooLong => .error .numeralTooLong

end UnitRouting.Json
