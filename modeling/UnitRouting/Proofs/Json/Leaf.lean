import Mathlib.Data.List.Infix
import UnitRouting.Json.Reader
import UnitRouting.Json.Writer
import UnitRouting.Proofs.Text.Digits

/-! # Written texts and numbers are read back

The leaves of a JSON document: a text that is written with its code points as they are, and an
integer within the digit limit. Both are read back from in front of whatever may follow them. -/

namespace UnitRouting.Json

theorem hexDigit?_ofHexDigit {d : Nat} (small : d < 16) :
    (CodePoint.ofHexDigit d).hexDigit? = some d := by
  have every : ∀ d, d < 16 → (CodePoint.ofHexDigit d).hexDigit? = some d := by decide
  exact every d small

theorem unitEscape_eq (n : Nat) : unitEscape n =
    [CodePoint.ofChar '\\', CodePoint.ofChar 'u', .ofHexDigit (n / 16 / 16 / 16 % 16),
      .ofHexDigit (n / 16 / 16 % 16), .ofHexDigit (n / 16 % 16), .ofHexDigit (n % 16)] := rfl

theorem hexUnit?_digits {n : Nat} (small : n < 0x10000) :
    hexUnit? (.ofHexDigit (n / 16 / 16 / 16 % 16)) (.ofHexDigit (n / 16 / 16 % 16))
      (.ofHexDigit (n / 16 % 16)) (.ofHexDigit (n % 16)) = some n := by
  have digit (m : Nat) := hexDigit?_ofHexDigit (Nat.mod_lt m (by decide : 0 < 16))
  simp only [hexUnit?, digit, Option.bind_eq_bind, Option.bind_some, Option.pure_def]
  congr 1
  omega

theorem readBody_simple (opening : Text) {e d : CodePoint} (names : simpleEscape? e = some d)
    (notUnit : e ≠ CodePoint.ofChar 'u') (after : Text) :
    readBody opening (CodePoint.ofChar '\\' :: e :: after) = consText d (readBody opening after) := by
  rw [readBody.eq_def]
  simp only [if_neg (show CodePoint.ofChar '\\' ≠ CodePoint.ofChar '"' by decide), if_true, notUnit,
    if_false, names]

theorem readBody_unit (opening : Text) {n : Nat} (small : n < 0x10000)
    (notHigh : isHighSurrogate n = false) (next : CodePoint) (tail : Text) :
    readBody opening (unitEscape n ++ next :: tail) =
      consText (.ofNat n) (readBody opening (next :: tail)) := by
  rw [unitEscape_eq, readBody.eq_def]
  dsimp only [List.cons_append, List.nil_append]
  rw [if_neg (by decide), if_pos rfl, if_pos rfl, hexUnit?_digits small]
  simp only [notHigh, Bool.false_eq_true, if_false]

theorem readBody_raw (opening : Text) {c : CodePoint} (notQuote : c ≠ CodePoint.ofChar '"')
    (notBackslash : c ≠ CodePoint.ofChar '\\') (notControl : 0x1F < c.val) (rest : Text) :
    readBody opening (c :: rest) = consText c (readBody opening rest) := by
  rw [readBody.eq_def]
  simp only [notQuote, notBackslash, if_neg (Nat.not_le.mpr notControl), if_false]

/-- How a code point may be written: by the letter of its escape, by its number, or as it is. -/
inductive Escaped (c : CodePoint) : Text → Prop where
  | simple {e : CodePoint} (names : simpleEscape? e = some c) (notUnit : e ≠ CodePoint.ofChar 'u') :
      Escaped c [CodePoint.ofChar '\\', e]
  | unit (control : c.val < 0x20) : Escaped c (unitEscape c.val)
  | raw (notQuote : c ≠ CodePoint.ofChar '"') (notBackslash : c ≠ CodePoint.ofChar '\\')
      (notControl : 0x1F < c.val) : Escaped c [c]

theorem escaped (c : CodePoint) : Escaped c (escape false c) := by
  have numbered {n : Nat} (same : c.val = n) : c = .ofNat n := by
    rw [← same, CodePoint.ofNat, dif_pos c.isLt]
  unfold escape
  by_cases quote : c = CodePoint.ofChar '"'
  · rw [if_pos quote]
    exact quote ▸ .simple (by decide) (by decide)
  rw [if_neg quote]
  by_cases backslash : c = CodePoint.ofChar '\\'
  · rw [if_pos backslash]
    exact backslash ▸ .simple (by decide) (by decide)
  rw [if_neg backslash]
  by_cases lineFeed : c = CodePoint.ofChar '\n'
  · rw [if_pos lineFeed]
    exact lineFeed ▸ .simple (by decide) (by decide)
  rw [if_neg lineFeed]
  by_cases carriageReturn : c = CodePoint.ofChar '\r'
  · rw [if_pos carriageReturn]
    exact carriageReturn ▸ .simple (by decide) (by decide)
  rw [if_neg carriageReturn]
  by_cases tab : c = CodePoint.ofChar '\t'
  · rw [if_pos tab]
    exact tab ▸ .simple (by decide) (by decide)
  rw [if_neg tab]
  by_cases backspace : c.val = 8
  · rw [if_pos backspace]
    exact numbered backspace ▸ .simple (by decide) (by decide)
  rw [if_neg backspace]
  by_cases formFeed : c.val = 12
  · rw [if_pos formFeed]
    exact numbered formFeed ▸ .simple (by decide) (by decide)
  rw [if_neg formFeed]
  by_cases control : c.val < 0x20
  · rw [if_pos control]
    exact .unit control
  rw [if_neg control]
  have raw := Escaped.raw quote backslash (show 0x1F < c.val by omega)
  by_cases narrow : c.val < 0x7F
  · rw [if_pos narrow]
    exact raw
  · rw [if_neg narrow]
    exact raw

theorem readBody_escape (opening : Text) (c : CodePoint) (next : CodePoint) (tail : Text) :
    readBody opening (escape false c ++ next :: tail) =
      consText c (readBody opening (next :: tail)) := by
  generalize written : escape false c = piece
  have how : Escaped c piece := written ▸ escaped c
  cases how with
  | simple names notUnit => exact readBody_simple opening names notUnit (next :: tail)
  | unit control =>
      have notHigh : isHighSurrogate c.val = false := by
        simp only [isHighSurrogate, Bool.and_eq_false_iff, decide_eq_false_iff_not]
        omega
      have same : CodePoint.ofNat c.val = c := by
        rw [CodePoint.ofNat, dif_pos c.isLt]
      rw [readBody_unit opening (by omega) notHigh, same]
  | raw notQuote notBackslash notControl =>
      exact readBody_raw opening notQuote notBackslash notControl (next :: tail)

theorem readBody_written (opening t rest : Text) :
    readBody opening (t.flatMap (escape false) ++ CodePoint.ofChar '"' :: rest) = .ok (t, rest) := by
  have step (c : CodePoint) (after : Text) (nonempty : after ≠ []) :
      readBody opening (escape false c ++ after) = consText c (readBody opening after) := by
    obtain ⟨next, tail, rfl⟩ := List.exists_cons_of_ne_nil nonempty
    exact readBody_escape opening c next tail
  induction t with
  | nil => rw [List.flatMap_nil, List.nil_append, readBody.eq_def]; rfl
  | cons c t ih =>
      rw [List.flatMap_cons, List.append_assoc, step c _ (by simp), ih]
      rfl

/-- No number goes on into the text. -/
def EndsNumber (rest : Text) : Prop :=
  ∀ c tail, rest = c :: tail → c.isDigit = false ∧ c ≠ CodePoint.ofChar '.' ∧
    c ≠ CodePoint.ofChar 'e' ∧ c ≠ CodePoint.ofChar 'E'

theorem EndsNumber.nil : EndsNumber [] := by
  intro c tail h
  cases h

theorem EndsNumber.noDigit {rest : Text} (ends : EndsNumber rest) : Text.NoDigit rest :=
  fun c tail same => (ends c tail same).1

theorem wholeDigits?_ofNat (n : Nat) {rest : Text} (ends : EndsNumber rest) :
    wholeDigits? (Text.ofNat n ++ rest) = some (Text.ofNat n, rest) := by
  rcases Nat.eq_zero_or_pos n with rfl | positive
  · rw [Text.ofNat_of_lt (by decide)]
    rfl
  · obtain ⟨c, tail, written, ne⟩ := Text.ofNat_head positive
    have digit : c.isDigit = true :=
      Text.isDigit_of_mem_ofNat (by rw [written]; exact List.mem_cons_self)
    have digits : ∀ d ∈ Text.ofNat n, d.isDigit = true := fun _ => Text.isDigit_of_mem_ofNat
    have both := Text.span_digits digits ends.noDigit
    rw [written, List.cons_append] at both
    rw [written, List.cons_append]
    simp only [wholeDigits?, ne, if_false, digit, if_true, both]

theorem fraction?_none {rest : Text} (ends : EndsNumber rest) : fraction? rest = none := by
  cases rest with
  | nil => rfl
  | cons c tail => simp only [fraction?, (ends c tail rfl).2.1, false_and, if_false]

theorem exponent?_none {rest : Text} (ends : EndsNumber rest) : exponent? rest = none := by
  cases rest with
  | nil => rfl
  | cons c tail => simp only [exponent?, (ends c tail rfl).2.2, or_self, false_and, if_false]

theorem ne_of_isDigit {c d : CodePoint} (digit : c.isDigit = true) (other : d.isDigit = false) :
    c ≠ d := by
  rintro rfl
  rw [digit] at other
  cases other

theorem number?_ofInt {n : Int} (short : n.natAbs < numeralBound) {rest : Text}
    (ends : EndsNumber rest) :
    number? (some numeralLimit) (Text.ofInt n ++ rest) = some (.ok (.int n, rest)) := by
  have unsigned (m : Nat) (below : m < numeralBound) :
      ¬ numeralLimit < (Text.ofNat m).length := by
    have := Text.length_ofNat_le (by decide : 0 < numeralLimit) below
    omega
  cases n with
  | ofNat n =>
      obtain ⟨c, tail, written, digit⟩ := Text.ofNat_cons n
      have whole := wholeDigits?_ofNat n ends
      rw [written, List.cons_append] at whole
      have noSign : c ≠ CodePoint.ofChar '-' := ne_of_isDigit digit (by decide)
      simp only [Text.ofInt, written, List.cons_append, number?, noSign, if_false, whole,
        Option.map_some, fraction?_none ends, Option.elim_none, exponent?_none ends]
      simp [← written, unsigned n short, Text.digitsValue_ofNat]
  | negSucc n =>
      simp only [Text.ofInt, List.cons_append, number?, if_true, wholeDigits?_ofNat (n + 1) ends,
        Option.map_some, fraction?_none ends, Option.elim_none, exponent?_none ends]
      simp only [Option.any_some, decide_eq_true_eq, unsigned (n + 1) short, if_false,
        Text.digitsValue_ofNat]
      rfl

theorem isPrefixOf?_none_of_head {c d : CodePoint} (ne : d ≠ c) (name tail : Text) :
    (d :: name).isPrefixOf? (c :: tail) = none := by
  refine Option.eq_none_iff_forall_ne_some.mpr fun rest found => ne ?_
  exact (List.cons.inj (List.isPrefixOf?_eq_some_iff_append_eq.mp found)).1

theorem constant?_of_isDigit {c : CodePoint} (digit : c.isDigit = true) (tail : Text) :
    constant? (c :: tail) = none := by
  rw [constant?, List.findSome?_eq_none_iff]
  intro entry member
  rw [Option.map_eq_none_iff]
  simp only [constants, List.mem_cons, List.not_mem_nil, or_false] at member
  rcases member with rfl | rfl | rfl | rfl | rfl | rfl
  all_goals exact isPrefixOf?_none_of_head (ne_of_isDigit digit (by decide)).symm _ tail

theorem constant?_of_minus {c : CodePoint} (digit : c.isDigit = true) (tail : Text) :
    constant? (CodePoint.ofChar '-' :: c :: tail) = none := by
  rw [constant?, List.findSome?_eq_none_iff]
  intro entry member
  rw [Option.map_eq_none_iff]
  simp only [constants, List.mem_cons, List.not_mem_nil, or_false] at member
  rcases member with rfl | rfl | rfl | rfl | rfl | rfl
  case inr.inr.inr.inr.inr =>
    exact isPrefixOf?_none_of_head (ne_of_isDigit digit (by decide)).symm _ tail
  all_goals exact isPrefixOf?_none_of_head (by decide) _ _

theorem readValue_ofInt {n : Int} (short : n.natAbs < numeralBound) {rest : Text}
    (ends : EndsNumber rest) (fuel : Nat) :
    readValue (some numeralLimit) (fuel + 1) (Text.ofInt n ++ rest) = .ok (.int n, rest) := by
  have number := number?_ofInt short ends
  cases n with
  | ofNat n =>
      obtain ⟨c, tail, written, digit⟩ := Text.ofNat_cons n
      simp only [Text.ofInt, written, List.cons_append] at number ⊢
      have other (d : Char) (no : (CodePoint.ofChar d).isDigit = false) : c ≠ CodePoint.ofChar d :=
        ne_of_isDigit digit no
      rw [readValue]
      simp only [other '"' rfl, other '\x7b' rfl, other '[' rfl, if_false,
        constant?_of_isDigit digit, number]
  | negSucc n =>
      obtain ⟨c, tail, written, digit⟩ := Text.ofNat_cons (n + 1)
      simp only [Text.ofInt, written, List.cons_append] at number ⊢
      rw [readValue]
      simp only [constant?_of_minus digit, number]
      rfl

end UnitRouting.Json
