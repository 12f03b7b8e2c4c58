import UnitRouting.Number.Layout
import UnitRouting.Value.Basic

/-! # Writing JSON

A style fixes the indentation and which code points of a text are escaped; everything else about
the written form is the same everywhere. -/

namespace UnitRouting.Json

/-- The choices of a written document. -/
structure Style where
  /-- Lists and objects put each entry on a line of its own, indented by so many spaces a level. -/
  indent : Nat
  /-- Code points beyond ASCII are escaped. -/
  ascii : Bool

/-- Two spaces a level, all code points as they are. -/
def Style.readable : Style := ⟨2, false⟩

/-- Two spaces a level, ASCII only. -/
def Style.readableAscii : Style := ⟨2, true⟩

/-- An escape of one code unit. -/
def unitEscape (n : Nat) : Text := "\\u" ++ Text.ofHex 4 n

/-- A code point inside a text. -/
def escape (ascii : Bool) (c : CodePoint) : Text :=
  if c = '"' then "\\\""
  else if c = '\\' then "\\\\"
  else if c = '\n' then "\\n"
  else if c = '\r' then "\\r"
  else if c = '\t' then "\\t"
  else if c.val = 8 then "\\b"
  else if c.val = 12 then "\\f"
  else if c.val < 0x20 then unitEscape c.val
  else if c.val < 0x7F then [c]
  else if !ascii then [c]
  else if c.val < 0x10000 then unitEscape c.val
  else
    unitEscape (0xD800 + (c.val - 0x10000) / 0x400)
      ++ unitEscape (0xDC00 + (c.val - 0x10000) % 0x400)

/-- A text between its quotes. -/
def writeText (ascii : Bool) (t : Text) : Text := "\"" ++ t.flatMap (escape ascii) ++ "\""

/-- The layout of floating point numbers in documents. -/
def numberLayout : Layout := { Layout.display with nan := "NaN", infinity := "Infinity" }

namespace Style

/-- The start of a new line at a level. -/
def newLine (style : Style) (level : Nat) : Text :=
  CodePoint.ofChar '\n' :: List.replicate (style.indent * level) (CodePoint.ofChar ' ')

/-- What stands between the entries of a level. -/
def separator (style : Style) (level : Nat) : Text := "," ++ style.newLine level

mutual

/-- A value whose entries, if it has any, are indented to one level more than `level`. -/
def writeAt (style : Style) (level : Nat) : Value → Text
  | .undefined | .null => "null"
  | .bool b => if b then Text.ofString "true" else Text.ofString "false"
  | .int n => Text.ofInt n
  | .float x => numberLayout.write x
  | .text t => writeText style.ascii t
  | .list [] => "[]"
  | .list (item :: items) =>
    "[" ++ style.newLine (level + 1)
      ++ Text.join (style.separator (level + 1)) (writeItems style (level + 1) (item :: items))
      ++ style.newLine level ++ "]"
  | .object [] => "\x7b\x7d"
  | .object (field :: fields) =>
    "\x7b" ++ style.newLine (level + 1)
      ++ Text.join (style.separator (level + 1)) (writeFields style (level + 1) (field :: fields))
      ++ style.newLine level ++ "\x7d"

def writeItems (style : Style) (level : Nat) : List Value → List Text
  | [] => []
  | item :: rest => writeAt style level item :: writeItems style level rest

def writeFields (style : Style) (level : Nat) : List (Text × Value) → List Text
  | [] => []
  | (name, value) :: rest =>
    (writeText style.ascii name ++ ": " ++ writeAt style level value)
      :: writeFields style level rest

end

/-- The written form of a value. -/
def write (style : Style) (value : Value) : Text := style.writeAt 0 value

end Style

end UnitRouting.Json
