import UnitRouting.Proofs.Json.Written

/-! # The grammar of documents

Which texts are JSON documents, apart from how they are read. Beyond the standard there are the constants
`NaN`, `Infinity` and `-Infinity`, and the escapes of a text are not paired. The length of numbers is not
limited; where an integer is too long for a reader is told by a grammar of its own. -/

namespace UnitRouting.Json

/-- At least one ASCII digit, and nothing else. -/
def IsDigits (t : Text) : Prop := t ≠ [] ∧ ∀ c ∈ t, c.isDigit = true

/-- Digits without a superfluous zero in front. -/
def IsWhole (t : Text) : Prop := IsDigits t ∧ ∀ rest, t = CodePoint.ofChar '0' :: rest → rest = []

/-- Digits, with a minus sign in front or without. -/
inductive IsInteger : Text → Prop where
  | positive {digits : Text} (whole : IsWhole digits) : IsInteger digits
  | negative {digits : Text} (whole : IsWhole digits) : IsInteger (CodePoint.ofChar '-' :: digits)

/-- A point and digits. -/
inductive IsFraction : Text → Prop where
  | point {digits : Text} (places : IsDigits digits) : IsFraction (CodePoint.ofChar '.' :: digits)

/-- The letter of an exponent, a sign or none, and digits. -/
inductive IsExponent : Text → Prop where
  | power {letter : CodePoint} {sign digits : Text}
      (named : letter = CodePoint.ofChar 'e' ∨ letter = CodePoint.ofChar 'E')
      (signed : sign ∈ [([] : Text), "+", "-"]) (size : IsDigits digits) :
      IsExponent (letter :: (sign ++ digits))

/-- An integer, a fraction or none, and an exponent or none. -/
inductive IsNumber : Text → Prop where
  | parts {integer fraction exponent : Text} (whole : IsInteger integer)
      (places : fraction = [] ∨ IsFraction fraction) (power : exponent = [] ∨ IsExponent exponent) :
      IsNumber (integer ++ (fraction ++ exponent))

/-- What may stand between quotes: no control characters, quotes or backslashes but in escapes. -/
inductive IsBody : Text → Prop where
  | nil : IsBody []
  | plain {c : CodePoint} {rest : Text} (notQuote : c ≠ CodePoint.ofChar '"')
      (notBackslash : c ≠ CodePoint.ofChar '\\') (notControl : 0x1F < c.val) (later : IsBody rest) :
      IsBody (c :: rest)
  | letter {c : CodePoint} {rest : Text} (known : c ∈ ("\"\\/bfnrt" : Text)) (later : IsBody rest) :
      IsBody (CodePoint.ofChar '\\' :: c :: rest)
  | unit {a b c d : CodePoint} {rest : Text}
      (hexadecimal : ∀ digit ∈ [a, b, c, d], digit.hexDigit?.isSome) (later : IsBody rest) :
      IsBody (CodePoint.ofChar '\\' :: CodePoint.ofChar 'u' :: a :: b :: c :: d :: rest)

/-- The constants of the grammar. -/
def constantNames : List Text := ["null", "true", "false", "NaN", "Infinity", "-Infinity"]

/-- A body between quotes, a gap, a colon and a gap. -/
inductive IsName : Text → Prop where
  | quoted {body before behind : Text} (inside : IsBody body) (blank : Blank before)
      (blankToo : Blank behind) : IsName (CodePoint.ofChar '"' ::
        (body ++ CodePoint.ofChar '"' :: (before ++ CodePoint.ofChar ':' :: behind)))

/-- A gap, a comma and a gap. -/
inductive IsComma : Text → Prop where
  | gaps {before behind : Text} (blank : Blank before) (blankToo : Blank behind) :
      IsComma (before ++ CodePoint.ofChar ',' :: behind)

mutual

/-- The text of one value. -/
inductive IsValue : Text → Prop where
  | constant {t : Text} (known : t ∈ constantNames) : IsValue t
  | number {t : Text} (counts : IsNumber t) : IsValue t
  | text {body : Text} (inside : IsBody body) :
      IsValue (CodePoint.ofChar '"' :: (body ++ [CodePoint.ofChar '"']))
  | emptyList {gap : Text} (blank : Blank gap) :
      IsValue (CodePoint.ofChar '[' :: (gap ++ [CodePoint.ofChar ']']))
  | list {gap items : Text} (blank : Blank gap) (inside : IsItems items) :
      IsValue (CodePoint.ofChar '[' :: (gap ++ (items ++ [CodePoint.ofChar ']'])))
  | emptyObject {gap : Text} (blank : Blank gap) :
      IsValue (CodePoint.ofChar '\x7b' :: (gap ++ [CodePoint.ofChar '\x7d']))
  | object {gap fields : Text} (blank : Blank gap) (inside : IsFields fields) :
      IsValue (CodePoint.ofChar '\x7b' :: (gap ++ (fields ++ [CodePoint.ofChar '\x7d'])))

/-- At least one value, with commas in between and a gap behind the last one. -/
inductive IsItems : Text → Prop where
  | last {item gap : Text} (here : IsValue item) (blank : Blank gap) : IsItems (item ++ gap)
  | more {item comma rest : Text} (here : IsValue item) (between : IsComma comma)
      (later : IsItems rest) : IsItems (item ++ (comma ++ rest))

/-- At least one named value, with commas in between and a gap behind the last one. -/
inductive IsFields : Text → Prop where
  | last {name value gap : Text} (named : IsName name) (here : IsValue value) (blank : Blank gap) :
      IsFields (name ++ (value ++ gap))
  | more {name value comma rest : Text} (named : IsName name) (here : IsValue value)
      (between : IsComma comma) (later : IsFields rest) :
      IsFields (name ++ (value ++ (comma ++ rest)))

end

/-- One value with nothing but gaps around it. -/
inductive IsDocument : Text → Prop where
  | whole {before value behind : Text} (blank : Blank before) (here : IsValue value)
      (blankToo : Blank behind) : IsDocument (before ++ (value ++ behind))

/-- Where an integer ends: no digit, fraction or exponent goes on with it. -/
structure EndsInteger (rest : Text) : Prop where
  digit : ∀ c tail, rest = c :: tail → c.isDigit = false
  fraction : ∀ t tail, rest = t ++ tail → ¬IsFraction t
  exponent : ∀ t tail, rest = t ++ tail → ¬IsExponent t

/-- An integer of more digits than the limit stands in front. -/
inductive LongInteger (limit : Nat) : Text → Prop where
  | positive {digits rest : Text} (whole : IsWhole digits) (long : limit < digits.length)
      (ends : EndsInteger rest) : LongInteger limit (digits ++ rest)
  | negative {digits rest : Text} (whole : IsWhole digits) (long : limit < digits.length)
      (ends : EndsInteger rest) : LongInteger limit (CodePoint.ofChar '-' :: (digits ++ rest))

mutual

/-- Going through the value that begins here comes upon an integer of more digits than the limit, with
    nothing but values in front of it. What stands behind the integer may be anything. -/
inductive LongIn (limit : Nat) : Text → Prop where
  | here {t : Text} (long : LongInteger limit t) : LongIn limit t
  | list {gap t : Text} (blank : Blank gap) (inside : LongAmongItems limit t) :
      LongIn limit (CodePoint.ofChar '[' :: (gap ++ t))
  | object {gap t : Text} (blank : Blank gap) (inside : LongAmongFields limit t) :
      LongIn limit (CodePoint.ofChar '\x7b' :: (gap ++ t))

/-- Going through the items that begin here does. -/
inductive LongAmongItems (limit : Nat) : Text → Prop where
  | here {t : Text} (long : LongIn limit t) : LongAmongItems limit t
  | later {item comma t : Text} (passed : IsValue item) (between : IsComma comma)
      (long : LongAmongItems limit t) : LongAmongItems limit (item ++ (comma ++ t))

/-- Going through the fields that begin here does. -/
inductive LongAmongFields (limit : Nat) : Text → Prop where
  | here {name t : Text} (named : IsName name) (long : LongIn limit t) :
      LongAmongFields limit (name ++ t)
  | later {name value comma t : Text} (named : IsName name) (passed : IsValue value)
      (between : IsComma comma) (long : LongAmongFields limit t) :
      LongAmongFields limit (name ++ (value ++ (comma ++ t)))

end

/-- Going through the text as a document comes upon an integer of more digits than the limit. -/
inductive Overlong (limit : Nat) : Text → Prop where
  | document {gap t : Text} (blank : Blank gap) (long : LongIn limit t) : Overlong limit (gap ++ t)

end UnitRouting.Json
