import UnitRouting.Text.Printable

/-! # Quoted text

Text shown between quotes: apostrophes, unless the text has apostrophes and no quotation marks.
The backslash, the quote in use and whatever is not printable are escaped. -/

namespace UnitRouting

namespace Text.Quoted

/-- The quote that surrounds a text. -/
def mark (t : Text) : CodePoint :=
  if t.contains (CodePoint.ofChar '\'') && !t.contains (CodePoint.ofChar '"') then '"' else '\''

/-- A code point between quotes. -/
def escape (quote c : CodePoint) : Text :=
  if c = quote ∨ c = '\\' then [CodePoint.ofChar '\\', c]
  else if c = '\t' then "\\t"
  else if c = '\n' then "\\n"
  else if c = '\r' then "\\r"
  else if c.isPrintable then [c]
  else if c.val < 0x100 then "\\x" ++ Text.ofHex 2 c.val
  else if c.val < 0x10000 then "\\u" ++ Text.ofHex 4 c.val
  else "\\U" ++ Text.ofHex 8 c.val

end Text.Quoted

/-- The text between quotes, with escapes. -/
def Text.quoted (t : Text) : Text :=
  Text.Quoted.mark t :: t.flatMap (Text.Quoted.escape (Text.Quoted.mark t))
    ++ [Text.Quoted.mark t]

end UnitRouting
