import UnitRouting.Text.Utf8

/-! # Text in files

Files hold text as UTF-8, without a mark of their own, and end their lines in any of three ways. -/

namespace UnitRouting

namespace Text

/-- Every line end as a line feed: a carriage return counts, and with a line feed it counts once. -/
def unifyLineEnds : Text → Text
  | [] => []
  | [c] => [if c = '\r' then CodePoint.ofChar '\n' else c]
  | c :: d :: rest =>
    if c = '\r' then
      if d = '\n' then CodePoint.ofChar '\n' :: unifyLineEnds rest
      else CodePoint.ofChar '\n' :: unifyLineEnds (d :: rest)
    else c :: unifyLineEnds (d :: rest)

/-- The text of a file. -/
def ofFile (bytes : Bytes) : Except Utf8.DecodeError Text :=
  (Utf8.decode bytes).map unifyLineEnds

end Text

end UnitRouting
