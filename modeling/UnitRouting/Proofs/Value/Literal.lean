import UnitRouting.Proofs.Json.Grammar
import UnitRouting.Proofs.Json.Leaf
import UnitRouting.Proofs.Number.Correct
import UnitRouting.Proofs.Number.Written
import UnitRouting.Proofs.Value.Overflow

/-! # The grammar of numeric texts

Which texts write a number, and which number, apart from how they are read. White space at the ends does
not count. What is left is blank, an infinity, a decimal with a sign or without, or an unsigned literal
with a base mark, and the number is the correctly rounded one. The reader knows the same literals and no
others; it differs only for those with a base mark that are beyond all numbers. -/

namespace UnitRouting.Numeral

/-- White space and line ends: tab, line feed, vertical tab, form feed, carriage return, the spaces, the
    line and paragraph separators and the byte order mark. -/
def spaces : List Nat := [
    0x09, 0x0A, 0x0B, 0x0C, 0x0D, 0x20, 0xA0, 0x1680, 0x2000, 0x2001, 0x2002, 0x2003, 0x2004, 0x2005,
    0x2006, 0x2007, 0x2008, 0x2009, 0x200A, 0x2028, 0x2029, 0x202F, 0x205F, 0x3000, 0xFEFF]

/-- Nothing but white space. -/
def IsSpace (t : Text) : Prop := ∀ c ∈ t, c.val ∈ spaces

/-- The text is the body with white space at both ends, and all there is. -/
inductive IsStripped : Text → Text → Prop where
  | ends {front body back : Text} (leading : IsSpace front) (trailing : IsSpace back)
      (first : ∀ c ∈ body.head?, c.val ∉ spaces) (last : ∀ c ∈ body.getLast?, c.val ∉ spaces) :
      IsStripped (front ++ (body ++ back)) body

/-- A sign or none; the flag tells whether it is a minus. -/
inductive IsSign : Bool → Text → Prop where
  | none : IsSign false []
  | plus : IsSign false "+"
  | minus : IsSign true "-"

/-- An exponent or none, and the power of ten that it stands for. -/
inductive IsPower : Text → Int → Prop where
  | none : IsPower [] 0
  | exponent {letter : CodePoint} {mark digits : Text} {negative : Bool}
      (named : letter = CodePoint.ofChar 'e' ∨ letter = CodePoint.ofChar 'E')
      (signed : IsSign negative mark) (size : Json.IsDigits digits) :
      IsPower (letter :: (mark ++ digits)) (if negative then -(value digits : Int) else value digits)

/-- Digits, digits with a point and a fraction that may be empty, or a point with digits behind it, each
    with an exponent or without. -/
inductive IsDecimal : Text → ℚ → Prop where
  | whole {digits tail : Text} {power : Int} (size : Json.IsDigits digits)
      (scale : IsPower tail power) : IsDecimal (digits ++ tail) (value digits * 10 ^ power)
  | places {digits fraction tail : Text} {power : Int} (size : Json.IsDigits digits)
      (rest : ∀ c ∈ fraction, c.isDigit = true) (scale : IsPower tail power) :
      IsDecimal (digits ++ CodePoint.ofChar '.' :: (fraction ++ tail))
        ((value digits + value fraction / 10 ^ fraction.length) * 10 ^ power)
  | leading {fraction tail : Text} {power : Int} (rest : Json.IsDigits fraction)
      (scale : IsPower tail power) :
      IsDecimal (CodePoint.ofChar '.' :: (fraction ++ tail))
        (value fraction / 10 ^ fraction.length * 10 ^ power)

/-- The base marks. -/
def baseMarks : List (Char × Nat) :=
  [('x', 16), ('X', 16), ('o', 8), ('O', 8), ('b', 2), ('B', 2)]

/-- A zero, a base mark and digits of the base. -/
inductive IsBased : Text → Nat → Prop where
  | digits {mark : Char} {base : Nat} {digits : Text} {values : List Nat}
      (marked : (mark, base) ∈ baseMarks) (some : digits ≠ [])
      (written : List.Forall₂ (fun c d => c.hexDigit? = .some d ∧ d < base) digits values) :
      IsBased (CodePoint.ofChar '0' :: CodePoint.ofChar mark :: digits) (Text.baseValue base values)

/-- The number that a text without white space at its ends stands for. -/
inductive StandsFor : Text → Double → Prop where
  | blank : StandsFor [] (.zero false)
  | infinity {mark : Text} {negative : Bool} (signed : IsSign negative mark) :
      StandsFor (mark ++ Text.ofString "Infinity") (.infinite negative)
  | decimal {mark unsigned : Text} {negative : Bool} {size : ℚ} {x : Double}
      (signed : IsSign negative mark) (written : IsDecimal unsigned size)
      (rounds : Double.Rounds negative size x) : StandsFor (mark ++ unsigned) x
  | based {t : Text} {n : Nat} {x : Double} (written : IsBased t n)
      (rounds : Double.Rounds false n x) : StandsFor t x

/-- A literal with a base mark that is beyond all numbers. -/
def IsTooLarge (t : Text) : Prop := ∃ n, IsBased t n ∧ Double.overflowBound ≤ n

theorem isNumeralSpace_iff {c : CodePoint} : c.isNumeralSpace = true ↔ c.val ∈ spaces := by
  simp only [CodePoint.isNumeralSpace, spaces, Bool.or_eq_true, Bool.and_eq_true, decide_eq_true_eq,
    beq_iff_eq, List.mem_cons, List.not_mem_nil, or_false]
  omega

theorem isNumeralSpace_eq_false {c : CodePoint} : c.isNumeralSpace = false ↔ c.val ∉ spaces := by
  rw [← Bool.not_eq_true, isNumeralSpace_iff]

theorem isStripped_iff {t body : Text} :
    IsStripped t body ↔ body = t.trim CodePoint.isNumeralSpace := by
  constructor
  · intro stripped
    cases stripped with
    | ends leading trailing first last =>
        symm
        apply Text.trim_append
        · exact fun c member => isNumeralSpace_iff.mpr (leading c member)
        · exact fun c member => isNumeralSpace_iff.mpr (trailing c member)
        · exact fun c member => isNumeralSpace_eq_false.mpr (first c member)
        · exact fun c member => isNumeralSpace_eq_false.mpr (last c member)
  · rintro rfl
    obtain ⟨front, back, split, leading, trailing, first, last⟩ :=
      Text.exists_trim CodePoint.isNumeralSpace t
    simp only [isNumeralSpace_iff, isNumeralSpace_eq_false] at leading trailing first last
    have stripped := IsStripped.ends leading trailing first last
    rwa [← split] at stripped

theorem IsSign.sign_append {negative : Bool} {mark : Text} (signed : IsSign negative mark)
    {c : CodePoint} {rest : Text} (noMinus : c ≠ CodePoint.ofChar '-')
    (noPlus : c ≠ CodePoint.ofChar '+') : sign (mark ++ c :: rest) = (negative, c :: rest) := by
  cases signed with
  | none => exact (if_neg noMinus).trans (if_neg noPlus)
  | plus => rfl
  | minus => rfl

theorem exists_sign (t : Text) : ∃ mark, IsSign (sign t).1 mark ∧ t = mark ++ (sign t).2 := by
  cases t with
  | nil => exact ⟨[], .none, rfl⟩
  | cons c rest =>
      by_cases minus : c = CodePoint.ofChar '-'
      · subst minus
        exact ⟨_, .minus, rfl⟩
      by_cases plus : c = CodePoint.ofChar '+'
      · subst plus
        exact ⟨_, .plus, rfl⟩
      · rw [show sign (c :: rest) = (false, c :: rest) from IsSign.none.sign_append minus plus]
        exact ⟨[], .none, rfl⟩

theorem IsSign.sign_digits {negative : Bool} {mark digits : Text} (signed : IsSign negative mark)
    (size : Json.IsDigits digits) : sign (mark ++ digits) = (negative, digits) := by
  obtain ⟨c, rest, rfl⟩ := List.exists_cons_of_ne_nil size.1
  have digit := size.2 c List.mem_cons_self
  exact signed.sign_append (Json.ne_of_isDigit digit rfl) (Json.ne_of_isDigit digit rfl)

theorem exponent?_eq_some {t : Text} {power : Int} : exponent? t = some power ↔ IsPower t power := by
  constructor
  · intro read
    cases t with
    | nil =>
        cases read
        exact .none
    | cons letter rest =>
        obtain ⟨mark, signed, split⟩ := exists_sign rest
        unfold exponent? at read
        dsimp only at read
        split at read
        case isFalse => cases read
        next named =>
        split at read
        case isTrue => cases read
        next size =>
        cases read
        simp only [Bool.or_eq_true, List.isEmpty_iff, Bool.not_eq_true', not_or, Bool.not_eq_false,
          List.all_eq_true] at size
        have isPower := IsPower.exponent named signed size
        rwa [← split] at isPower
  · intro isPower
    cases isPower with
    | none => rfl
    | @exponent letter mark digits negative named signed size =>
        have some : digits.isEmpty = false := by simpa using size.1
        have all : digits.all CodePoint.isDigit = true := List.all_eq_true.mpr size.2
        simp only [exponent?, if_pos named, signed.sign_digits size, some, all, Bool.not_true,
          Bool.or_self, Bool.false_eq_true, if_false, value]

theorem value_places {digits fraction : Text} (rest : ∀ c ∈ fraction, c.isDigit = true) (power : Int) :
    (value (digits ++ fraction) * 10 ^ (power - fraction.length) : ℚ) =
      (value digits + value fraction / 10 ^ fraction.length) * 10 ^ power := by
  rw [value_append digits rest, zpow_sub₀ (by norm_num), zpow_natCast]
  push_cast
  field_simp

theorem parts_of_reads {digits fraction tail : Text} {size : Nat} {power : Int}
    (read : (if digits.isEmpty && fraction.isEmpty then none
      else (exponent? tail).map fun power =>
        (Text.digitsValue (digitValues (digits ++ fraction)), power - (fraction.length : Int))) =
      some (size, power)) :
    (digits = [] → fraction ≠ []) ∧ ∃ e, IsPower tail e ∧
      (size * 10 ^ power : ℚ) = value (digits ++ fraction) * 10 ^ (e - fraction.length) := by
  split at read
  · cases read
  · next some =>
      obtain ⟨e, scale, same⟩ := Option.map_eq_some_iff.mp read
      cases same
      refine ⟨?_, e, exponent?_eq_some.mp scale, rfl⟩
      rintro rfl rfl
      exact some rfl

theorem isDecimal_of_reads {t : Text} {size : Nat} {power : Int}
    (read : decimal? t = some (size, power)) : IsDecimal t (size * 10 ^ power) := by
  have front : ∀ c ∈ t.takeWhile CodePoint.isDigit, c.isDigit = true :=
    fun c => List.mem_takeWhile_imp
  have split : t.takeWhile CodePoint.isDigit ++ t.dropWhile CodePoint.isDigit = t :=
    List.takeWhile_append_dropWhile
  unfold decimal? at read
  generalize t.takeWhile CodePoint.isDigit = digits at front split read
  generalize t.dropWhile CodePoint.isDigit = rest at split read
  subst split
  have whole {tail : Text} {e : Int} (some : digits = [] → [] ≠ ([] : Text)) (scale : IsPower tail e)
      (same : (size * 10 ^ power : ℚ) = value (digits ++ []) * 10 ^ (e - ([] : Text).length)) :
      IsDecimal (digits ++ tail) (size * 10 ^ power) := by
    rw [same, List.append_nil, List.length_nil, Nat.cast_zero, sub_zero]
    exact .whole ⟨fun none => some none rfl, front⟩ scale
  cases rest with
  | nil =>
      obtain ⟨some, e, scale, same⟩ := parts_of_reads read
      exact whole some scale same
  | cons c after =>
      by_cases point : c = CodePoint.ofChar '.'
      · subst point
        have places : ∀ c ∈ after.takeWhile CodePoint.isDigit, c.isDigit = true :=
          fun c => List.mem_takeWhile_imp
        have split : after.takeWhile CodePoint.isDigit ++ after.dropWhile CodePoint.isDigit = after :=
          List.takeWhile_append_dropWhile
        simp only [if_true] at read
        generalize after.takeWhile CodePoint.isDigit = fraction at places split read
        generalize after.dropWhile CodePoint.isDigit = tail at split read
        subst split
        obtain ⟨some, e, scale, same⟩ := parts_of_reads read
        rw [same, value_places places]
        by_cases none : digits = []
        · subst none
          rw [show value [] = 0 from rfl, Nat.cast_zero, zero_add]
          exact .leading ⟨some rfl, places⟩ scale
        · exact .places ⟨none, front⟩ places scale
      · simp only [if_neg point] at read
        obtain ⟨some, e, scale, same⟩ := parts_of_reads read
        exact whole some scale same

theorem IsPower.noDigit {tail : Text} {power : Int} (scale : IsPower tail power) : Text.NoDigit tail := by
  intro c rest same
  cases scale with
  | none => cases same
  | exponent named =>
      cases same
      rcases named with rfl | rfl <;> rfl

theorem IsPower.noPoint {tail : Text} {power : Int} (scale : IsPower tail power) (rest : Text) :
    tail ≠ CodePoint.ofChar '.' :: rest := by
  intro same
  cases scale with
  | none => cases same
  | exponent named =>
      have marked := (List.cons.inj same).1
      rw [marked] at named
      revert named
      decide

theorem IsDecimal.readsAs {t : Text} {size : ℚ} (written : IsDecimal t size) :
    Layout.ReadsAs t size := by
  cases written with
  | whole digits scale =>
      have read := decimal?_whole digits.2 digits.1 scale.noDigit scale.noPoint
      rw [exponent?_eq_some.mpr scale] at read
      exact ⟨_, _, read, rfl⟩
  | places digits rest scale =>
      have read := decimal?_point digits.2 rest (List.append_ne_nil_of_left_ne_nil digits.1 _)
        scale.noDigit
      rw [exponent?_eq_some.mpr scale] at read
      exact ⟨_, _, read, value_places rest _⟩
  | @leading fraction tail power rest scale =>
      have read := @decimal?_point [] fraction tail nofun rest.2 rest.1 scale.noDigit
      rw [exponent?_eq_some.mpr scale] at read
      refine ⟨_, _, read, ?_⟩
      rw [value_places rest.2 power]
      rw [show value [] = 0 from rfl, Nat.cast_zero, zero_add]

theorem mapM_eq_some {α β : Type} {f : α → Option β} {items : List α} {results : List β} :
    items.mapM f = some results ↔
      List.Forall₂ (fun item result => f item = some result) items results := by
  induction items generalizing results with
  | nil => simp [eq_comm]
  | cons item rest ih =>
      simp only [List.mapM_cons, bind, pure, Option.bind_eq_some_iff, Option.some.injEq, ih,
        List.forall₂_cons_left_iff]
      constructor
      · rintro ⟨result, here, tail, there, rfl⟩
        exact ⟨result, tail, here, there, rfl⟩
      · rintro ⟨result, tail, here, there, rfl⟩
        exact ⟨result, here, tail, there, rfl⟩

theorem based?_eq_some {base : Nat} {digits : Text} {n : Nat} :
    based? base digits = some n ↔ digits ≠ [] ∧ ∃ values, Text.baseValue base values = n ∧
      List.Forall₂ (fun c d => CodePoint.hexDigit? c = some d ∧ d < base) digits values := by
  simp only [based?, List.isEmpty_iff, Option.ite_none_left_eq_some, Option.map_eq_some_iff,
    mapM_eq_some, Option.filter_eq_some_iff, decide_eq_true_eq, and_comm]

theorem radix?_iff {t : Text} {n : Nat} : radix? t = some n ↔ IsBased t n := by
  constructor
  · intro read
    obtain ⟨mark, digits, rfl, listed⟩ := radix?_eq_some read
    simp only [List.mem_cons, List.not_mem_nil, or_false] at listed
    have based (base : Nat) (marked : (mark, base) ∈ baseMarks)
        (read : based? base digits = some n) :
        IsBased (CodePoint.ofChar '0' :: CodePoint.ofChar mark :: digits) n := by
      obtain ⟨some, values, rfl, written⟩ := based?_eq_some.mp read
      exact .digits marked some written
    rcases listed with rfl | rfl | rfl | rfl | rfl | rfl
    · exact based 16 (by decide) read
    · exact based 16 (by decide) read
    · exact based 8 (by decide) read
    · exact based 8 (by decide) read
    · exact based 2 (by decide) read
    · exact based 2 (by decide) read
  · intro written
    cases written with
    | @digits mark base digits values marked some written =>
        have read : based? base digits = Option.some (Text.baseValue base values) :=
          based?_eq_some.mpr ⟨some, values, rfl, written⟩
        simp only [baseMarks, List.mem_cons, Prod.mk.injEq, List.not_mem_nil, or_false] at marked
        rcases marked with ⟨rfl, rfl⟩ | ⟨rfl, rfl⟩ | ⟨rfl, rfl⟩ | ⟨rfl, rfl⟩ | ⟨rfl, rfl⟩ | ⟨rfl, rfl⟩ <;>
          exact read

theorem IsDecimal.begins {t : Text} {size : ℚ} (written : IsDecimal t size) :
    ∃ c rest, t = c :: rest ∧ c ≠ CodePoint.ofChar '-' ∧ c ≠ CodePoint.ofChar '+' := by
  have digit {digits : Text} (size : Json.IsDigits digits) (tail : Text) :
      ∃ c rest, digits ++ tail = c :: rest ∧ c ≠ CodePoint.ofChar '-' ∧ c ≠ CodePoint.ofChar '+' := by
    obtain ⟨c, rest, rfl⟩ := List.exists_cons_of_ne_nil size.1
    have digit := size.2 c List.mem_cons_self
    exact ⟨c, rest ++ tail, rfl, Json.ne_of_isDigit digit rfl, Json.ne_of_isDigit digit rfl⟩
  cases written with
  | whole size => exact digit size _
  | places size => exact digit size _
  | leading => exact ⟨_, _, rfl, by decide, by decide⟩

section Read

variable {t : Text}

theorem read_blank (blank : t.trim CodePoint.isNumeralSpace = []) : read t = .ok (.zero false) := by
  simp only [read, blank, List.isEmpty_nil, if_true]

variable {mark unsigned : Text} {negative : Bool} (signed : IsSign negative mark)

include signed

theorem read_infinity (body : t.trim CodePoint.isNumeralSpace = mark ++ Text.ofString "Infinity") :
    read t = .ok (.infinite negative) := by
  have parts : sign (mark ++ Text.ofString "Infinity") = (negative, Text.ofString "Infinity") :=
    signed.sign_append (by decide) (by decide)
  have visible : (mark ++ Text.ofString "Infinity").isEmpty = false := by
    cases signed <;> rfl
  have noDecimal : decimal? (Text.ofString "Infinity") = none := rfl
  simp only [read, body, visible, parts, noDecimal, Bool.false_eq_true, if_false, if_true]

theorem read_of_isDecimal {size : ℚ} (written : IsDecimal unsigned size)
    (body : t.trim CodePoint.isNumeralSpace = mark ++ unsigned) :
    ∃ x, read t = .ok x ∧ Double.Rounds negative size x := by
  obtain ⟨digits, power, decimal, rfl⟩ := written.readsAs
  obtain ⟨c, rest, rfl, noMinus, noPlus⟩ := written.begins
  have visible : (mark ++ c :: rest).isEmpty = false := by
    cases signed <;> rfl
  refine ⟨.ofDecimal negative digits power, ?_, Double.rounds_ofDecimal negative digits power⟩
  simp only [read, body, visible, signed.sign_append noMinus noPlus, decimal, Bool.false_eq_true,
    if_false]

end Read

theorem read_of_isTooLarge {t : Text} (large : IsTooLarge (t.trim CodePoint.isNumeralSpace)) :
    read t = .error .tooLarge := by
  obtain ⟨n, written, beyond⟩ := large
  exact read_eq_error.mpr ⟨rfl, n, radix?_iff.mpr written, beyond⟩

/-- Every other literal is read as the number that it stands for. -/
theorem read_of_standsFor {t : Text} {x : Double}
    (literal : StandsFor (t.trim CodePoint.isNumeralSpace) x)
    (within : ¬IsTooLarge (t.trim CodePoint.isNumeralSpace)) : read t = .ok x := by
  generalize body : t.trim CodePoint.isNumeralSpace = text at literal within
  cases literal with
  | blank => exact read_blank body
  | infinity signed => exact read_infinity signed body
  | decimal signed written rounds =>
      obtain ⟨y, read, rounds'⟩ := read_of_isDecimal signed written body
      rw [read, rounds'.unique rounds]
  | @based t n x written rounds =>
      have found := radix?_iff.mpr written
      rw [← body] at found
      rw [read_of_radix found, (Double.rounds_ofInt n).unique rounds]
      cases rounds with
      | finite => rfl
      | infinite beyond => exact absurd ⟨n, written, by exact_mod_cast beyond⟩ within

theorem read_of_no_literal {t : Text} (none : ∀ x, ¬StandsFor (t.trim CodePoint.isNumeralSpace) x) :
    read t = .ok .nan := by
  generalize body : t.trim CodePoint.isNumeralSpace = text at none
  obtain ⟨mark, signed, split⟩ := exists_sign text
  have visible : text.isEmpty = false := by
    rw [List.isEmpty_eq_false_iff]
    rintro rfl
    exact none _ .blank
  have noDecimal : decimal? (sign text).2 = Option.none := by
    rw [Option.eq_none_iff_forall_ne_some]
    rintro ⟨digits, power⟩ read
    have literal := StandsFor.decimal signed (isDecimal_of_reads read)
      (Double.rounds_ofDecimal _ digits power)
    rw [← split] at literal
    exact none _ literal
  have notInfinity : (sign text).2 ≠ Text.ofString "Infinity" := by
    intro same
    have literal := StandsFor.infinity signed
    rw [← same, ← split] at literal
    exact none _ literal
  have noRadix : radix? text = Option.none := by
    rw [Option.eq_none_iff_forall_ne_some]
    intro n read
    exact none _ (.based (radix?_iff.mp read) (Double.rounds_ofInt n))
  simp only [read, body, visible, noDecimal, notInfinity, noRadix, Bool.false_eq_true, if_false]

/-- An ASCII code point other than the underscore. -/
def IsOrdinary (c : CodePoint) : Prop := c.val < 0x80 ∧ c ≠ CodePoint.ofChar '_'

instance (c : CodePoint) : Decidable (IsOrdinary c) := inferInstanceAs (Decidable (_ ∧ _))

theorem isOrdinary_of_hexDigit {c : CodePoint} {d : Nat} (digit : c.hexDigit? = some d) :
    IsOrdinary c := by
  constructor
  · have digits : '0'.toNat = 0x30 ∧ '9'.toNat = 0x39 := ⟨rfl, rfl⟩
    have lower : 'a'.toNat = 0x61 ∧ 'f'.toNat = 0x66 := ⟨rfl, rfl⟩
    have upper : 'A'.toNat = 0x41 ∧ 'F'.toNat = 0x46 := ⟨rfl, rfl⟩
    simp only [CodePoint.hexDigit?, CodePoint.isDigit, CodePoint.isBetween, digits, lower, upper,
      Bool.and_eq_true, decide_eq_true_eq] at digit
    split_ifs at digit <;> omega
  · rintro rfl
    cases digit

theorem isOrdinary_of_isDigit {c : CodePoint} (digit : c.isDigit = true) : IsOrdinary c :=
  isOrdinary_of_hexDigit (if_pos digit)

theorem IsSign.ordinary {negative : Bool} {mark : Text} (signed : IsSign negative mark) :
    ∀ c ∈ mark, IsOrdinary c := by
  cases signed <;> decide

theorem IsPower.ordinary {t : Text} {power : Int} (scale : IsPower t power) :
    ∀ c ∈ t, IsOrdinary c := by
  cases scale with
  | none => exact nofun
  | exponent named signed size =>
      simp only [List.forall_mem_cons, List.forall_mem_append]
      refine ⟨?_, signed.ordinary, fun c member => isOrdinary_of_isDigit (size.2 c member)⟩
      rcases named with rfl | rfl <;> decide

theorem IsDecimal.ordinary {t : Text} {size : ℚ} (written : IsDecimal t size) :
    ∀ c ∈ t, IsOrdinary c := by
  have point : IsOrdinary (CodePoint.ofChar '.') := by decide
  cases written with
  | whole size scale =>
      simp only [List.forall_mem_append]
      exact ⟨fun c member => isOrdinary_of_isDigit (size.2 c member), scale.ordinary⟩
  | places size rest scale =>
      simp only [List.forall_mem_cons, List.forall_mem_append]
      exact ⟨fun c member => isOrdinary_of_isDigit (size.2 c member), point,
        fun c member => isOrdinary_of_isDigit (rest c member), scale.ordinary⟩
  | leading rest scale =>
      simp only [List.forall_mem_cons, List.forall_mem_append]
      exact ⟨point, fun c member => isOrdinary_of_isDigit (rest.2 c member), scale.ordinary⟩

theorem IsBased.forall_mem {p : CodePoint → Prop} (zero : p (CodePoint.ofChar '0'))
    (marks : ∀ entry ∈ baseMarks, p (CodePoint.ofChar entry.1))
    (digit : ∀ {c d}, CodePoint.hexDigit? c = some d → p c) {t : Text} {n : Nat}
    (written : IsBased t n) : ∀ c ∈ t, p c := by
  cases written with
  | digits marked some written =>
      simp only [List.forall_mem_cons]
      refine ⟨zero, marks _ marked, ?_⟩
      clear some
      induction written with
      | nil => exact nofun
      | cons read _ ih => exact List.forall_mem_cons.mpr ⟨digit read.1, ih⟩

theorem IsBased.ordinary {t : Text} {n : Nat} (written : IsBased t n) : ∀ c ∈ t, IsOrdinary c :=
  written.forall_mem (by decide) (by decide) isOrdinary_of_hexDigit

theorem StandsFor.ordinary {t : Text} {x : Double} (literal : StandsFor t x) :
    ∀ c ∈ t, IsOrdinary c := by
  have infinity : ∀ c ∈ Text.ofString "Infinity", IsOrdinary c := by decide
  cases literal with
  | blank => exact nofun
  | infinity signed => exact List.forall_mem_append.mpr ⟨signed.ordinary, infinity⟩
  | decimal signed written => exact List.forall_mem_append.mpr ⟨signed.ordinary, written.ordinary⟩
  | based written => exact written.ordinary

theorem read_signed_based {t mark rest : Text} {negative : Bool} {n : Nat}
    (signed : IsSign negative mark) (given : mark ≠ []) (written : IsBased rest n)
    (body : t.trim CodePoint.isNumeralSpace = mark ++ rest) : read t = .ok .nan := by
  obtain ⟨-, -, noDecimal, notInfinity⟩ := decimal?_of_radix (radix?_iff.mpr written)
  have parts : sign (mark ++ rest) = (negative, rest) := by
    cases written with
    | digits => exact signed.sign_append (by decide) (by decide)
  have visible : (mark ++ rest).isEmpty = false := by simp [given]
  have noRadix : radix? (mark ++ rest) = none := by
    cases written with
    | digits =>
        cases signed with
        | none => exact absurd rfl given
        | plus => rfl
        | minus => rfl
  simp only [read, body, visible, parts, noDecimal, notInfinity, noRadix, Bool.false_eq_true, if_false]

end UnitRouting.Numeral

namespace UnitRouting

open Numeral

/-- The numbers of texts. A text has one body without white space at its ends. If the body is blank, an
    infinity, a decimal or an unsigned literal with a base mark, the number is the one that it stands for,
    correctly rounded; only a literal with a base mark that is beyond all numbers has none and is a fault.
    Every other text is NaN, so one with an underscore or a digit of another script in it, and one that
    puts a sign in front of a base mark. -/
theorem text_number_is_of_literal (t : Text) : ∃ body,
    (∀ other, IsStripped t other ↔ other = body) ∧
    (∀ x, StandsFor body x → ¬IsTooLarge body → (Value.text t).looseNumber = .ok x) ∧
    (IsTooLarge body → (Value.text t).looseNumber = .error .tooLarge) ∧
    ((∀ x, ¬StandsFor body x) → (Value.text t).looseNumber = .ok .nan) ∧
    (∀ c ∈ body, c = CodePoint.ofChar '_' ∨ 0x80 ≤ c.val → (Value.text t).looseNumber = .ok .nan) ∧
    ∀ negative mark rest n, IsSign negative mark → mark ≠ [] → IsBased rest n → body = mark ++ rest →
      (Value.text t).looseNumber = .ok .nan := by
  refine ⟨t.trim CodePoint.isNumeralSpace, fun other => isStripped_iff, ?_, read_of_isTooLarge,
    read_of_no_literal, ?_, ?_⟩
  · intro x literal within
    exact read_of_standsFor literal within
  · intro c member foreign
    apply read_of_no_literal
    intro x literal
    obtain ⟨ascii, noUnderscore⟩ := literal.ordinary c member
    rcases foreign with underscore | other
    · exact noUnderscore underscore
    · omega
  · intro negative mark rest n signed given written body
    exact read_signed_based signed given written body

example : (Value.text "nan").looseNumber = .ok .nan := by decide
example : (Value.text " -inf ").looseNumber = .ok .nan := by decide

/-- The literal of `2 ^ 1024` is beyond all numbers, and it is not read as NaN but a fault. -/
theorem literal_beyond_numbers_is_no_nan :
    let t : Text := "0x1" ++ List.replicate 256 (CodePoint.ofChar '0')
    IsStripped t t ∧ IsTooLarge t ∧ (Value.text t).looseNumber = .error .tooLarge := by
  intro t
  have failed : read t = .error .tooLarge := by decide +kernel
  have trimmed : t.trim CodePoint.isNumeralSpace = t := by decide +kernel
  obtain ⟨n, found, large⟩ := (read_eq_error.mp failed).2
  rw [trimmed] at found
  exact ⟨isStripped_iff.mpr trimmed.symm, ⟨n, radix?_iff.mp found, large⟩, failed⟩

end UnitRouting
