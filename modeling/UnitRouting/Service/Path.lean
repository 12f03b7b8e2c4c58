import UnitRouting.Text.Utf8

/-! # Paths of requests

A request names its path in the target, percent-encoded. The path is what is left of the target
without hosts, query and fragment, decoded, and with one slash in front. -/

namespace UnitRouting

/-- The bytes that a percent-encoded text stands for; a percent sign without two hexadecimal digits
    stands for itself. -/
def Text.percentBytes : Text → Bytes
  | [] => []
  | [c] => Utf8.encodePoint c
  | [c, d] => Utf8.encodePoint c ++ Utf8.encodePoint d
  | c :: d :: e :: rest =>
    if c = '%' then
      match d.hexDigit?, e.hexDigit? with
      | some high, some low => .ofNat (16 * high + low) :: percentBytes rest
      | _, _ => Utf8.encodePoint c ++ percentBytes (d :: e :: rest)
    else Utf8.encodePoint c ++ percentBytes (d :: e :: rest)

/-- A text that stands for bytes, with all of them percent-encoded. -/
def Text.percentEncoded (bytes : Bytes) : Text :=
  bytes.flatMap fun b => CodePoint.ofChar '%' :: Text.ofHex 2 b.toNat

namespace Path

/-- A slash. -/
def slash : CodePoint := '/'

/-- The text after the host that two slashes introduce. -/
def dropHost : Text → Text
  | c :: d :: rest =>
    if c = slash ∧ d = slash then rest.dropWhile (· != slash) else c :: d :: rest
  | t => t

/-- The path of a target. The target may name a host in front, and so may what is left of it. -/
def ofTarget (target : Text) : Text :=
  let address := target.takeWhile fun c => c != CodePoint.ofChar '?' && c != CodePoint.ofChar '#'
  let encoded := dropHost (dropHost address)
  slash :: (Utf8.decodeReplacing encoded.percentBytes).dropWhile (· == slash)

/-- What stands between the slashes of a path, after the first slash. -/
def segments (path : Text) : List Text := (path.splitOn slash).drop 1

/-- The path with one slash for every two neighbours. -/
def withSlashesMerged : Text → Text
  | c :: d :: rest =>
    if c = slash ∧ d = slash then slash :: withSlashesMerged rest
    else c :: withSlashesMerged (d :: rest)
  | t => t

end Path

end UnitRouting
