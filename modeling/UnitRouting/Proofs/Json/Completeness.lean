import UnitRouting.Proofs.Json.Lexeme

/-! # Whatever is in the grammar is read

A value by the grammar is read up to where it ends, unless there is an integer in it that is too long,
and where an integer too long is come upon reading stops. The length of a value bounds how many steps
down reading it takes: a list and its first item begin at different places, but an item and its first
step down do not, so each place counts twice. -/

namespace UnitRouting.Json

open Outcome

theorem IsDigits.cons {t : Text} (digits : IsDigits t) :
    ∃ c tail, t = c :: tail ∧ c.isDigit = true := by
  obtain ⟨c, tail, rfl⟩ := List.exists_cons_of_ne_nil digits.1
  exact ⟨c, tail, rfl, digits.2 c List.mem_cons_self⟩

theorem IsInteger.cons {t : Text} (integer : IsInteger t) : ∃ c tail, c.isDigit = true ∧
    (t = c :: tail ∨ t = CodePoint.ofChar '-' :: c :: tail) := by
  cases integer with
  | positive whole =>
      obtain ⟨c, tail, rfl, digit⟩ := whole.1.cons
      exact ⟨c, tail, digit, .inl rfl⟩
  | negative whole =>
      obtain ⟨c, tail, rfl, digit⟩ := whole.1.cons
      exact ⟨c, tail, digit, .inr rfl⟩

/-- The text begins as a value does: neither with white space nor with the end of a list, and not with
    a byte order mark. -/
structure Begins (t : Text) : Prop where
  intro ::
  visible : Visible t
  notClose : ∀ tail, t ≠ CodePoint.ofChar ']' :: tail
  noMark : ∀ tail, t ≠ CodePoint.ofChar '\uFEFF' :: tail

theorem Begins.of_cons {c : CodePoint} (seen : isSpace c = false ∧ c ≠ CodePoint.ofChar ']' ∧
    c ≠ CodePoint.ofChar '\uFEFF') (tail : Text) : Begins (c :: tail) where
  visible := ⟨c, tail, rfl, seen.1⟩
  notClose := fun _ same => seen.2.1 (List.cons.inj same).1
  noMark := fun _ same => seen.2.2 (List.cons.inj same).1

theorem Begins.append {t : Text} (begins : Begins t) (rest : Text) : Begins (t ++ rest) := by
  obtain ⟨⟨c, tail, rfl, seen⟩, notClose, noMark⟩ := begins
  apply Begins.of_cons ⟨seen, ?_, ?_⟩
  · rintro rfl
    exact notClose tail rfl
  · rintro rfl
    exact noMark tail rfl

theorem Begins.of_isDigit {c : CodePoint} (digit : c.isDigit = true) (tail : Text) :
    Begins (c :: tail) := by
  refine .of_cons ⟨?_, ne_of_isDigit digit (by decide), ne_of_isDigit digit (by decide)⟩ tail
  have range := CodePoint.isDigit_iff.mp digit
  simp only [isSpace, Bool.or_eq_false_iff, beq_eq_false_iff_ne]
  omega

theorem IsInteger.begins {t : Text} (integer : IsInteger t) : Begins t := by
  obtain ⟨c, tail, digit, rfl | rfl⟩ := integer.cons
  · exact .of_isDigit digit tail
  · exact .of_cons (by decide) _

theorem IsValue.begins {t : Text} (isValue : IsValue t) : Begins t := by
  cases isValue with
  | constant known =>
      simp only [constantNames, List.mem_cons, List.not_mem_nil, or_false] at known
      rcases known with rfl | rfl | rfl | rfl | rfl | rfl <;> exact .of_cons (by decide) _
  | number counts =>
      obtain ⟨integer, -, -⟩ := counts
      exact integer.begins.append _
  | text | emptyList | list | emptyObject | object => exact .of_cons (by decide) _

theorem IsItems.begins {t : Text} (isItems : IsItems t) : Begins t := by
  cases isItems with
  | last here | more here => exact here.begins.append _

theorem IsName.cons {t : Text} (isName : IsName t) :
    ∃ tail, t = CodePoint.ofChar '"' :: tail := by
  obtain ⟨-, -, -⟩ := isName
  exact ⟨_, rfl⟩

theorem IsFields.cons {t : Text} (isFields : IsFields t) :
    ∃ tail, t = CodePoint.ofChar '"' :: tail := by
  cases isFields with
  | last named | more named =>
      obtain ⟨tail, rfl⟩ := named.cons
      exact ⟨_, rfl⟩

section Long

variable {limit : Nat} {t : Text}

theorem LongInteger.isInteger (long : LongInteger limit t) :
    ∃ w rest, t = w ++ rest ∧ IsInteger w := by
  cases long with
  | positive whole => exact ⟨_, _, rfl, .positive whole⟩
  | negative whole => exact ⟨_, _, rfl, .negative whole⟩

theorem LongIn.begins (long : LongIn limit t) : Begins t := by
  cases long with
  | here long =>
      obtain ⟨w, rest, rfl, integer⟩ := long.isInteger
      exact integer.begins.append rest
  | list | object => exact .of_cons (by decide) _

theorem LongAmongItems.begins (long : LongAmongItems limit t) : Begins t := by
  cases long with
  | here long => exact long.begins
  | later passed => exact passed.begins.append _

theorem LongAmongFields.cons (long : LongAmongFields limit t) :
    ∃ tail, t = CodePoint.ofChar '"' :: tail := by
  cases long with
  | here named | later named =>
      obtain ⟨tail, rfl⟩ := named.cons
      exact ⟨_, rfl⟩

end Long

theorem IsComma.skip {w t : Text} (isComma : IsComma w) :
    ∃ after, Json.skip (w ++ t) = CodePoint.ofChar ',' :: after ∧ (Visible t → Json.skip after = t) := by
  obtain ⟨blank, blank'⟩ := isComma
  rw [List.append_assoc, List.cons_append]
  exact ⟨_, skip_blank_append blank ⟨_, _, rfl, rfl⟩, skip_blank_append blank'⟩

theorem IsComma.length_pos {w : Text} (isComma : IsComma w) : 0 < w.length := by
  obtain ⟨-, -⟩ := isComma
  simp only [List.length_append, List.length_cons]
  omega

theorem IsComma.endsNumber {w : Text} (isComma : IsComma w) (t : Text) : EndsNumber (w ++ t) := by
  obtain ⟨blank, -⟩ := isComma
  rw [List.append_assoc]
  exact .append_blank blank (.cons (by decide) _)

section Steps

variable {limit : Option Nat} {fuel : Nat}

theorem readValue_bracket {gap t : Text} (blank : Blank gap) (begins : Begins t) :
    readValue limit (fuel + 1) (CodePoint.ofChar '[' :: (gap ++ t)) =
      (do let (items, rest) ← readItems limit fuel t
          return (.list items, rest)) := by
  have start := skip_blank_append blank begins.visible
  obtain ⟨⟨c, tail, rfl, -⟩, notClose, -⟩ := begins
  have other : c ≠ CodePoint.ofChar ']' := by
    rintro rfl
    exact notClose tail rfl
  rw [readValue]
  simp only [if_neg (show CodePoint.ofChar '[' ≠ CodePoint.ofChar '"' by decide),
    if_neg (show CodePoint.ofChar '[' ≠ CodePoint.ofChar '\x7b' by decide), if_true, start, other,
    if_false]

theorem readValue_brace {gap t : Text} (blank : Blank gap)
    (quote : ∃ tail, t = CodePoint.ofChar '"' :: tail) :
    readValue limit (fuel + 1) (CodePoint.ofChar '\x7b' :: (gap ++ t)) =
      (do let (fields, rest) ← readFields limit fuel [] t
          return (.object fields, rest)) := by
  obtain ⟨tail, rfl⟩ := quote
  have start := skip_blank_append (t := CodePoint.ofChar '"' :: tail) blank ⟨_, _, rfl, rfl⟩
  rw [readValue]
  simp only [if_neg (show CodePoint.ofChar '\x7b' ≠ CodePoint.ofChar '"' by decide), if_true, start,
    if_neg (show CodePoint.ofChar '"' ≠ CodePoint.ofChar '\x7d' by decide)]

theorem readValue_number {w : Text} (integer : IsInteger w) (rest : Text)
    {result : Except ReadError (Value × Text)} (number : number? limit (w ++ rest) = some result) :
    readValue limit (fuel + 1) (w ++ rest) = result := by
  obtain ⟨c, tail, digit, rfl | rfl⟩ := integer.cons
  · have other (d : Char) (no : (CodePoint.ofChar d).isDigit = false) : c ≠ CodePoint.ofChar d :=
      ne_of_isDigit digit no
    rw [List.cons_append] at number ⊢
    rw [readValue]
    simp only [other '"' rfl, other '\x7b' rfl, other '[' rfl, if_false,
      constant?_of_isDigit digit, number]
  · rw [List.cons_append, List.cons_append] at number ⊢
    rw [readValue]
    simp only [constant?_of_minus digit, number]
    rfl

/-- What is done behind an item. -/
def afterItem (limit : Option Nat) (fuel : Nat) :
    Value × Text → Except ReadError (List Value × Text)
  | (item, rest) =>
    match skip rest with
    | [] => .error (.malformed .expectingComma [])
    | d :: after =>
      if d = CodePoint.ofChar ']' then .ok ([item], after)
      else if d = CodePoint.ofChar ',' then do
        let (items, rest) ← readItems limit fuel (skip after)
        return (item :: items, rest)
      else .error (.malformed .expectingComma (d :: after))

theorem readItems_succ (t : Text) :
    readItems limit (fuel + 1) t = readValue limit fuel t >>= afterItem limit fuel := by
  rw [readItems]
  rfl

theorem afterItem_close {gap : Text} (blank : Blank gap) (item : Value) (rest : Text) :
    afterItem limit fuel (item, gap ++ CodePoint.ofChar ']' :: rest) = .ok ([item], rest) := by
  have close := skip_blank_append (t := CodePoint.ofChar ']' :: rest) blank ⟨_, _, rfl, rfl⟩
  simp only [afterItem, close, if_true]

theorem afterItem_comma {comma t : Text} (isComma : IsComma comma) (visible : Visible t)
    (item : Value) : afterItem limit fuel (item, comma ++ t) =
      (do let (items, rest) ← readItems limit fuel t
          return (item :: items, rest)) := by
  obtain ⟨after, start, next⟩ := isComma.skip (t := t)
  simp only [afterItem, start, next visible,
    if_neg (show CodePoint.ofChar ',' ≠ CodePoint.ofChar ']' by decide), if_true]

/-- What is done behind the value of a field, with the fields that were read and the name. -/
def afterField (limit : Option Nat) (fuel : Nat) (fields : Fields) (name : Text) :
    Value × Text → Except ReadError (Fields × Text)
  | (value, rest) =>
    let fields := fields.set name value
    match skip rest with
    | [] => .error (.malformed .expectingComma [])
    | e :: last =>
      if e = CodePoint.ofChar '\x7d' then .ok (fields, last)
      else if e = CodePoint.ofChar ',' then readFields limit fuel fields (skip last)
      else .error (.malformed .expectingComma (e :: last))

theorem readFields_name (limit : Option Nat) (fuel : Nat) {name t : Text} (isName : IsName name)
    (visible : Visible t) (fields : Fields) : ∃ key, readFields limit (fuel + 1) fields (name ++ t) =
      readValue limit fuel t >>= afterField limit fuel fields key := by
  cases isName with
  | @quoted body before behind inside blank blank' =>
      have colon : skip (before ++ CodePoint.ofChar ':' :: (behind ++ t)) =
        CodePoint.ofChar ':' :: (behind ++ t) := skip_blank_append blank ⟨_, _, rfl, rfl⟩
      obtain ⟨key, read⟩ := readBody_succeeds (CodePoint.ofChar '"' :: (body ++
        CodePoint.ofChar '"' :: (before ++ CodePoint.ofChar ':' :: (behind ++ t))))
        (before ++ CodePoint.ofChar ':' :: (behind ++ t)) inside
      refine ⟨key, ?_⟩
      simp only [List.cons_append, List.append_assoc]
      rw [readFields]
      simp only [if_true, read, bind_ok, colon, skip_blank_append blank' visible]
      rfl

theorem afterField_close {gap : Text} (blank : Blank gap) (fields : Fields) (name : Text)
    (value : Value) (rest : Text) :
    afterField limit fuel fields name (value, gap ++ CodePoint.ofChar '\x7d' :: rest) =
      .ok (fields.set name value, rest) := by
  have close := skip_blank_append (t := CodePoint.ofChar '\x7d' :: rest) blank ⟨_, _, rfl, rfl⟩
  simp only [afterField, close, if_true]

theorem afterField_comma {comma t : Text} (isComma : IsComma comma) (visible : Visible t)
    (fields : Fields) (name : Text) (value : Value) :
    afterField limit fuel fields name (value, comma ++ t) =
      readFields limit fuel (fields.set name value) t := by
  obtain ⟨after, start, next⟩ := isComma.skip (t := t)
  simp only [afterField, start, next visible,
    if_neg (show CodePoint.ofChar ',' ≠ CodePoint.ofChar '\x7d' by decide), if_true]

end Steps

namespace Passes

variable {α β : Type} {first : Except ReadError (α × Text)}
  {next : α × Text → Except ReadError (β × Text)} {rest rest' : Text}

theorem ok (a : α) (rest : Text) : Passes (.ok (a, rest)) rest := .inl ⟨a, rfl⟩

theorem bind (passes : Passes first rest) (goes : ∀ a, Passes (next (a, rest)) rest') :
    Passes (first >>= next) rest' := by
  rcases passes with ⟨a, rfl⟩ | rfl
  · exact goes a
  · exact .inr rfl

theorem stops (passes : Passes first rest)
    (goes : ∀ a, next (a, rest) = .error .numeralTooLong) :
    first >>= next = .error .numeralTooLong := by
  rcases passes with ⟨a, rfl⟩ | rfl
  · exact goes a
  · rfl

end Passes

/-- What is read within so many steps down. -/
structure PassesWithin (limit : Option Nat) (fuel : Nat) : Prop where
  value : ∀ w rest, IsValue w → 2 * w.length ≤ fuel → EndsNumber rest →
    Passes (readValue limit fuel (w ++ rest)) rest
  items : ∀ w rest, IsItems w → 2 * w.length + 1 ≤ fuel →
    Passes (readItems limit fuel (w ++ CodePoint.ofChar ']' :: rest)) rest
  fields : ∀ acc w rest, IsFields w → 2 * w.length + 1 ≤ fuel →
    Passes (readFields limit fuel acc (w ++ CodePoint.ofChar '\x7d' :: rest)) rest

theorem readValue_constant {limit : Option Nat} {fuel : Nat} {name : Text}
    (known : name ∈ constantNames) (rest : Text) :
    ∃ v, readValue limit (fuel + 1) (name ++ rest) = .ok (v, rest) := by
  simp only [constantNames, List.mem_cons, List.not_mem_nil, or_false] at known
  rcases known with rfl | rfl | rfl | rfl | rfl | rfl <;> exact ⟨_, rfl⟩

namespace PassesWithin

variable {limit : Option Nat} {fuel : Nat}

theorem value_succ (within : PassesWithin limit fuel) {w rest : Text} (isValue : IsValue w)
    (enough : 2 * w.length ≤ fuel + 1) (ends : EndsNumber rest) :
    Passes (readValue limit (fuel + 1) (w ++ rest)) rest := by
  cases isValue with
  | constant known => exact .inl (readValue_constant known rest)
  | number counts =>
      obtain ⟨result, read, passes⟩ := number?_passes limit counts ends
      obtain ⟨integer, -, -⟩ := counts
      rw [List.append_assoc] at read ⊢
      rwa [readValue_number integer _ read]
  | @text body inside =>
      simp only [List.cons_append, List.append_assoc, List.nil_append]
      obtain ⟨read, written⟩ := readBody_succeeds
        (CodePoint.ofChar '"' :: (body ++ CodePoint.ofChar '"' :: rest)) rest inside
      rw [readValue]
      simp only [if_true, written, bind_ok]
      exact .ok _ rest
  | @emptyList gap blank =>
      simp only [List.cons_append, List.append_assoc, List.nil_append]
      have close := skip_blank_append (t := CodePoint.ofChar ']' :: rest) blank ⟨_, _, rfl, rfl⟩
      rw [readValue]
      simp only [if_neg (show CodePoint.ofChar '[' ≠ CodePoint.ofChar '"' by decide),
        if_neg (show CodePoint.ofChar '[' ≠ CodePoint.ofChar '\x7b' by decide), if_true, close]
      exact .ok _ rest
  | @list gap items blank inside =>
      simp only [List.cons_append, List.append_assoc, List.length_cons, List.length_append] at enough ⊢
      rw [readValue_bracket blank (inside.begins.append _)]
      apply (within.items items rest inside (by omega)).bind
      intro found
      exact .ok _ rest
  | @emptyObject gap blank =>
      simp only [List.cons_append, List.append_assoc, List.nil_append]
      have close := skip_blank_append (t := CodePoint.ofChar '\x7d' :: rest) blank ⟨_, _, rfl, rfl⟩
      rw [readValue]
      simp only [if_neg (show CodePoint.ofChar '\x7b' ≠ CodePoint.ofChar '"' by decide), if_true,
        close]
      exact .ok _ rest
  | @object gap fields blank inside =>
      simp only [List.cons_append, List.append_assoc, List.length_cons, List.length_append] at enough ⊢
      obtain ⟨tail, starts⟩ := inside.cons
      rw [readValue_brace blank ⟨_, by rw [starts]; rfl⟩]
      apply (within.fields [] fields rest inside (by omega)).bind
      intro found
      exact .ok _ rest

theorem items_succ (within : PassesWithin limit fuel) {w : Text} (rest : Text) (isItems : IsItems w)
    (enough : 2 * w.length + 1 ≤ fuel + 1) :
    Passes (readItems limit (fuel + 1) (w ++ CodePoint.ofChar ']' :: rest)) rest := by
  rw [readItems_succ]
  cases isItems with
  | @last item gap here blank =>
      rw [List.length_append] at enough
      rw [List.append_assoc]
      apply (within.value item _ here (by omega) (.append_blank blank (.cons (by decide) rest))).bind
      intro v
      rw [afterItem_close blank]
      exact .ok _ rest
  | @more item comma w here between later =>
      have length := between.length_pos
      simp only [List.length_append] at enough
      simp only [List.append_assoc]
      apply (within.value item _ here (by omega) (between.endsNumber _)).bind
      intro v
      rw [afterItem_comma between (later.begins.visible.append _)]
      apply (within.items w rest later (by omega)).bind
      intro items
      exact .ok _ rest

theorem fields_succ (within : PassesWithin limit fuel) (acc : Fields) {w : Text} (rest : Text)
    (isFields : IsFields w) (enough : 2 * w.length + 1 ≤ fuel + 1) :
    Passes (readFields limit (fuel + 1) acc (w ++ CodePoint.ofChar '\x7d' :: rest)) rest := by
  cases isFields with
  | @last name value gap named here blank =>
      simp only [List.length_append] at enough
      simp only [List.append_assoc]
      obtain ⟨key, read⟩ :=
        readFields_name limit fuel named (here.begins.visible.append _) acc
      rw [read]
      apply (within.value value _ here (by omega) (.append_blank blank (.cons (by decide) rest))).bind
      intro v
      rw [afterField_close blank]
      exact .ok _ rest
  | @more name value comma w named here between later =>
      have length := between.length_pos
      simp only [List.length_append] at enough
      simp only [List.append_assoc]
      obtain ⟨key, read⟩ :=
        readFields_name limit fuel named (here.begins.visible.append _) acc
      rw [read]
      apply (within.value value _ here (by omega) (between.endsNumber _)).bind
      intro v
      obtain ⟨tail, starts⟩ := later.cons
      rw [afterField_comma between ⟨_, _, by rw [starts]; rfl, rfl⟩]
      exact within.fields _ w rest later (by omega)

end PassesWithin

theorem passesWithin (limit : Option Nat) (fuel : Nat) : PassesWithin limit fuel := by
  induction fuel with
  | zero =>
      constructor
      · intro w rest isValue enough
        obtain ⟨⟨c, tail, rfl, -⟩, -, -⟩ := isValue.begins
        simp at enough
      · intro w rest isItems enough
        cases enough
      · intro acc w rest isFields enough
        cases enough
  | succ fuel ih =>
      exact ⟨fun _ _ => ih.value_succ, fun _ rest => ih.items_succ rest,
        fun acc _ rest => ih.fields_succ acc rest⟩

/-- Where reading stops within so many steps down. -/
structure StopsWithin (limit fuel : Nat) : Prop where
  value : ∀ t, LongIn limit t → 2 * t.length ≤ fuel →
    readValue (some limit) fuel t = .error .numeralTooLong
  items : ∀ t, LongAmongItems limit t → 2 * t.length + 1 ≤ fuel →
    readItems (some limit) fuel t = .error .numeralTooLong
  fields : ∀ acc t, LongAmongFields limit t → 2 * t.length + 1 ≤ fuel →
    readFields (some limit) fuel acc t = .error .numeralTooLong

namespace StopsWithin

variable {limit fuel : Nat} {t : Text}

theorem value_succ (within : StopsWithin limit fuel) (long : LongIn limit t)
    (enough : 2 * t.length ≤ fuel + 1) :
    readValue (some limit) (fuel + 1) t = .error .numeralTooLong := by
  cases long with
  | here long =>
      have number := number?_of_longInteger long
      obtain ⟨w, rest, rfl, integer⟩ := long.isInteger
      exact readValue_number integer rest number
  | @list gap t blank inside =>
      simp only [List.length_cons, List.length_append] at enough
      rw [readValue_bracket blank inside.begins, within.items t inside (by omega), bind_error]
  | @object gap t blank inside =>
      simp only [List.length_cons, List.length_append] at enough
      rw [readValue_brace blank inside.cons, within.fields [] t inside (by omega), bind_error]

theorem items_succ (within : StopsWithin limit fuel) (long : LongAmongItems limit t)
    (enough : 2 * t.length + 1 ≤ fuel + 1) :
    readItems (some limit) (fuel + 1) t = .error .numeralTooLong := by
  rw [readItems_succ]
  cases long with
  | here long => rw [within.value t long (by omega), bind_error]
  | @later item comma t passed between long =>
      have length := between.length_pos
      simp only [List.length_append] at enough
      apply ((passesWithin (some limit) fuel).value item _ passed (by omega)
        (between.endsNumber t)).stops
      intro v
      rw [afterItem_comma between long.begins.visible, within.items t long (by omega), bind_error]

theorem fields_succ (within : StopsWithin limit fuel) (acc : Fields)
    (long : LongAmongFields limit t) (enough : 2 * t.length + 1 ≤ fuel + 1) :
    readFields (some limit) (fuel + 1) acc t = .error .numeralTooLong := by
  cases long with
  | @here name t named long =>
      rw [List.length_append] at enough
      obtain ⟨key, read⟩ := readFields_name (some limit) fuel named long.begins.visible acc
      rw [read, within.value t long (by omega), bind_error]
  | @later name value comma t named passed between long =>
      have length := between.length_pos
      simp only [List.length_append] at enough
      obtain ⟨key, read⟩ :=
        readFields_name (some limit) fuel named (passed.begins.visible.append _) acc
      rw [read]
      apply ((passesWithin (some limit) fuel).value value _ passed (by omega)
        (between.endsNumber t)).stops
      intro v
      obtain ⟨tail, starts⟩ := long.cons
      rw [afterField_comma between ⟨_, _, starts, rfl⟩, within.fields _ t long (by omega)]

end StopsWithin

theorem stopsWithin (limit fuel : Nat) : StopsWithin limit fuel := by
  induction fuel with
  | zero =>
      constructor
      · intro t long enough
        obtain ⟨⟨c, tail, rfl, -⟩, -, -⟩ := long.begins
        simp at enough
      · intro t long enough
        cases enough
      · intro acc t long enough
        cases enough
  | succ fuel ih => exact ⟨fun _ => ih.value_succ, fun _ => ih.items_succ, fun acc _ => ih.fields_succ acc⟩

/-- What is done behind the value of a document. -/
def atEnd : Value × Text → Except ReadError Value
  | (value, rest) =>
    match skip rest with
    | [] => .ok value
    | extra => .error (.malformed .extraData extra)

theorem atEnd_blank {gap : Text} (blank : Blank gap) (v : Value) : atEnd (v, gap) = .ok v := by
  have nothing : skip gap = [] := List.dropWhile_eq_nil_iff.mpr blank
  simp only [atEnd, nothing]

/-- What begins as a value does is read, past a gap, by the reader of values. -/
theorem readDocument_begins (limit : Option Nat) {gap t : Text} (blank : Blank gap)
    (begins : Begins t) : readDocument limit (gap ++ t) =
      readValue limit (2 * (gap ++ t).length + 1) t >>= atEnd := by
  have noMark : (Text.ofString "\uFEFF").isPrefixOf (gap ++ t) = false := by
    rw [Bool.eq_false_iff, ne_eq, List.isPrefixOf_iff_prefix]
    rintro ⟨tail, same⟩
    cases gap with
    | nil => exact begins.noMark tail same.symm
    | cons c gap =>
        cases same
        exact absurd (blank _ List.mem_cons_self) (by decide)
  simp only [readDocument, noMark, Bool.false_eq_true, if_false,
    skip_blank_append blank begins.visible]
  rfl

theorem readDocument_passes (limit : Option Nat) {t : Text} (document : IsDocument t) :
    (∃ v, readDocument limit t = .ok v) ∨ readDocument limit t = .error .numeralTooLong := by
  cases document with
  | @whole before value behind blank here blankToo =>
      have ends : EndsNumber (behind ++ []) := .append_blank blankToo .nil
      rw [List.append_nil] at ends
      rw [readDocument_begins limit blank (here.begins.append _)]
      have passes := (passesWithin limit (2 * (before ++ (value ++ behind)).length + 1)).value
        value behind here (by simp only [List.length_append]; omega) ends
      rcases passes with ⟨v, read⟩ | long
      · exact .inl ⟨v, by rw [read, bind_ok, atEnd_blank blankToo]⟩
      · exact .inr (by rw [long, bind_error])

theorem readDocument_of_overlong {limit : Nat} {t : Text} (long : Overlong limit t) :
    readDocument (some limit) t = .error .numeralTooLong := by
  obtain ⟨blank, long⟩ := long
  rw [readDocument_begins (some limit) blank long.begins,
    (stopsWithin limit _).value _ long (by rw [List.length_append]; omega), bind_error]

end UnitRouting.Json
