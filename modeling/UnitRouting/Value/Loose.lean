import UnitRouting.Fault
import UnitRouting.Number.Layout
import UnitRouting.Value.Basic

/-! # Loose conversions

Contexts are loosely typed, so a condition compares values after converting them: to text, to a
number, or to the common form of the two. -/

namespace UnitRouting

/-- White space around a numeral: the Unicode spaces, the line ends and the byte order mark. -/
def CodePoint.isNumeralSpace (c : CodePoint) : Bool :=
  (decide (0x09 ≤ c.val) && decide (c.val ≤ 0x0D)) || c.val == 0x20
  || c.val == 0xA0 || c.val == 0x1680
  || (decide (0x2000 ≤ c.val) && decide (c.val ≤ 0x200A))
  || c.val == 0x2028 || c.val == 0x2029 || c.val == 0x202F || c.val == 0x205F || c.val == 0x3000
  || c.val == 0xFEFF

namespace Numeral

/-- Splits off a sign; the flag tells whether it is a minus. -/
def sign : Text → Bool × Text
  | c :: rest => if c = '-' then (true, rest) else if c = '+' then (false, rest) else (false, c :: rest)
  | [] => (false, [])

/-- The values of ASCII digits. -/
def digitValues (t : Text) : List Nat := t.filterMap CodePoint.digit?

/-- Reads an exponent: nothing, or `e` with an optional sign and at least one digit. -/
def exponent? : Text → Option Int
  | [] => some 0
  | c :: rest =>
    if c = 'e' ∨ c = 'E' then
      let (negative, digits) := sign rest
      if digits.isEmpty || !digits.all CodePoint.isDigit then none
      else
        let size : Int := Text.digitsValue (digitValues digits)
        some (if negative then -size else size)
    else none

/-- Reads an unsigned decimal: digits with an optional fraction, at least one digit before or
    after the point, and an optional exponent. The result is the digits as one number and the
    power of ten that they are multiplied with. -/
def decimal? (t : Text) : Option (Nat × Int) :=
  let whole := t.takeWhile CodePoint.isDigit
  let rest := t.dropWhile CodePoint.isDigit
  let (fraction, tail) : Text × Text :=
    match rest with
    | c :: after =>
      if c = '.' then (after.takeWhile CodePoint.isDigit, after.dropWhile CodePoint.isDigit)
      else ([], rest)
    | [] => ([], [])
  if whole.isEmpty && fraction.isEmpty then none
  else
    (exponent? tail).map fun power =>
      (Text.digitsValue (digitValues (whole ++ fraction)), power - (fraction.length : Int))

/-- Reads the digits of a base: at least one, all of them below the base. -/
def based? (base : Nat) (t : Text) : Option Nat :=
  if t.isEmpty then none
  else
    (t.mapM fun c : CodePoint => c.hexDigit?.filter (· < base)).map (Text.baseValue base)

/-- Reads an unsigned literal with a base mark: `0x`, `0o` or `0b`, in either case. -/
def radix? : Text → Option Nat
  | zero :: mark :: digits =>
    if zero = CodePoint.ofChar '0' then
      if mark = 'x' ∨ mark = 'X' then based? 16 digits
      else if mark = 'o' ∨ mark = 'O' then based? 8 digits
      else if mark = 'b' ∨ mark = 'B' then based? 2 digits
      else none
    else none
  | _ => none

/-- The number that a text writes: zero if it is blank, NaN if it writes none. A literal with a
    base mark that is too large for a floating point number is a fault; a decimal that is too
    large is infinite. -/
def read (t : Text) : Except Fault Double :=
  let body := t.trim CodePoint.isNumeralSpace
  if body.isEmpty then .ok (.zero false)
  else
    let (negative, unsigned) := sign body
    match decimal? unsigned with
    | some (digits, exponent) => .ok (.ofDecimal negative digits exponent)
    | none =>
      if unsigned = Text.ofString "Infinity" then .ok (.infinite negative)
      else match radix? body with
        | some n =>
          match Double.ofInt n with
          | .infinite _ => .error .tooLarge
          | x => .ok x
        | none => .ok .nan

end Numeral

/-- The loose text of an integer: its digits below `2 ^ 53`, beyond that those of the nearest
    floating point number. -/
def looseInt (n : Int) : Text :=
  if n.natAbs < twoTo 53 then Text.ofInt n else Layout.plain.write (.ofInt n)

namespace Value

mutual

/-- The loose text of a value. -/
def looseText : Value → Text
  | .undefined => "undefined"
  | .null => "null"
  | .bool b => if b then Text.ofString "true" else Text.ofString "false"
  | .int n => looseInt n
  | .float x => Layout.plain.write x
  | .text t => t
  | .list items => Text.join "," (looseItems items)
  | .object _ => "[object Object]"

/-- The loose texts of items; what is nothing is empty. -/
def looseItems : List Value → List Text
  | [] => []
  | item :: rest =>
    (match item with
      | .undefined | .null => []
      | value => looseText value) :: looseItems rest

end

/-- The loose number of a value. -/
def looseNumber : Value → Except Fault Double
  | .undefined => .ok .nan
  | .null => .ok (.zero false)
  | .bool b => .ok (if b then .one else .zero false)
  | .int n => .ok (.ofInt n)
  | .float x => .ok x
  | .text t => Numeral.read t
  | .list items => Numeral.read (Value.list items).looseText
  | .object _ => .ok .nan

/-- The primitive forms that two values are compared in. -/
inductive Primitive where
  | number (n : Number)
  | text (t : Text)
  deriving DecidableEq

namespace Primitive

/-- Loose equality of primitives: texts by their code points, numbers by value, and a text and a
    number by the number that the text writes. -/
def looseEq : Primitive → Primitive → Except Fault Bool
  | .number a, .number b => .ok (a.eq b)
  | .text s, .text t => .ok (s == t)
  | .number a, .text t => (Numeral.read t).map fun x => a.eq (.float x)
  | .text s, .number b => (Numeral.read s).map fun x => (Number.float x).eq b

end Primitive

/-- The primitive form of a value that is something: booleans are numbers, lists and objects their
    loose text. -/
def primitive? : Value → Option Primitive
  | .undefined | .null => none
  | .bool b => some (.number (.float (if b then .one else .zero false)))
  | .int n => some (.number (.int n))
  | .float x => some (.number (.float x))
  | .text t => some (.text t)
  | .list items => some (.text (Value.list items).looseText)
  | .object fields => some (.text (Value.object fields).looseText)

/-- Lists and objects, which are equal to each other only if they are the very same one. -/
def isContainer : Value → Bool
  | .list _ | .object _ => true
  | _ => false

/-- Loose equality. Nothing equals nothing only; two containers are equal only if they are one and
    the same, which `same` tells; all other values are compared in their primitive forms. -/
def looseEq (same : Bool) (left right : Value) : Except Fault Bool :=
  match left.primitive?, right.primitive? with
  | none, none => .ok true
  | none, some _ => .ok false
  | some _, none => .ok false
  | some a, some b =>
    if left.isContainer && right.isContainer then .ok same else a.looseEq b

end Value

end UnitRouting
