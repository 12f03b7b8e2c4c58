import UnitRouting.Proofs.Number.Order
import UnitRouting.Proofs.Value.Spelling
import UnitRouting.Proofs.Value.Symmetry

/-! # Abstract equality

The algorithm that loose equality is after, as a relation: values of one type are compared as they are, the
two values that stand for nothing are equal, a number and a text are compared as numbers, a boolean gives
way to its number and a list or an object to its text. All numbers are floating point numbers. Where the
integers are such numbers and no literal with a base mark is too large, loose equality has the result of the
algorithm and no other. -/

namespace UnitRouting

open Numeral

/-- The number that a text stands for, NaN if it stands for none. -/
inductive NumberOf (t : Text) : Double → Prop where
  | literal {body : Text} {x : Double} (stripped : IsStripped t body) (stands : StandsFor body x) :
      NumberOf t x
  | none {body : Text} (stripped : IsStripped t body) (none : ∀ x, ¬StandsFor body x) : NumberOf t .nan

/-- The text is no literal with a base mark that is too large. -/
def FitsNumber (t : Text) : Prop := ∀ body, IsStripped t body → ¬IsTooLarge body

theorem fits_of_read {t : Text} {x : Double} (read : Numeral.read t = .ok x) : FitsNumber t := by
  intro body stripped large
  obtain rfl := isStripped_iff.mp stripped
  rw [read_of_isTooLarge large] at read
  cases read

theorem exists_numberOf (t : Text) : ∃ x, NumberOf t x := by
  have stripped := isStripped_iff.mpr (Eq.refl (t.trim CodePoint.isNumeralSpace))
  by_cases literal : ∃ x, StandsFor (t.trim CodePoint.isNumeralSpace) x
  · obtain ⟨x, stands⟩ := literal
    exact ⟨x, .literal stripped stands⟩
  · exact ⟨.nan, .none stripped (not_exists.mp literal)⟩

theorem NumberOf.looseNumber_eq {t : Text} {x : Double} (number : NumberOf t x) (fits : FitsNumber t) :
    (Value.text t).looseNumber = .ok x := by
  cases number with
  | literal stripped stands =>
      have within := fits _ stripped
      obtain rfl := isStripped_iff.mp stripped
      exact read_of_standsFor stands within
  | none stripped none =>
      obtain rfl := isStripped_iff.mp stripped
      exact read_of_no_literal none

theorem Text.mem_join {separator : Text} {first second : Text} {rest : List Text} {c : CodePoint}
    (member : c ∈ separator) : c ∈ Text.join separator (first :: second :: rest) := by
  simp only [Text.join, List.mem_append]
  exact .inl (.inr member)

/-- A text with a comma in it is no literal with a base mark. -/
theorem fits_of_comma {t : Text} (comma : CodePoint.ofChar ',' ∈ t) : FitsNumber t := by
  intro body stripped large
  obtain ⟨n, written, -⟩ := large
  cases stripped with
  | ends leading trailing =>
      have visible : (CodePoint.ofChar ',').val ∉ spaces := by decide
      have inside : CodePoint.ofChar ',' ∈ body := by
        rcases List.mem_append.mp comma with front | behind
        · exact absurd (leading _ front) visible
        · rcases List.mem_append.mp behind with inside | back
          · exact inside
          · exact absurd (trailing _ back) visible
      refine written.forall_mem (p := fun c => c ≠ CodePoint.ofChar ',') (by decide) (by decide) ?_ _
        inside rfl
      rintro c d digit rfl
      cases digit

theorem fits_write (x : Double) : FitsNumber (Layout.plain.write x) := by
  by_cases nan : x = .nan
  · subst nan
    exact fits_of_read (x := .nan) (by decide)
  · obtain ⟨y, read, -⟩ := read_write nan
    exact fits_of_read read

theorem Number.eq_toDouble {x y : Number} (exact : x.toDouble.place? = x.place?)
    (exact' : y.toDouble.place? = y.place?) : x.eq y = x.toDouble.eq y.toDouble := by
  unfold Number.eq Double.eq
  cases here : x.place? <;> cases there : y.place? <;> simp only [exact, exact', here, there]

namespace Value

/-- The values in a value, to any depth, with the value itself. -/
inductive Within (v : Value) : Value → Prop where
  | self : Within v v
  | item {items : List Value} {item : Value} (member : item ∈ items) (inside : Within v item) :
      Within v (.list items)
  | field {fields : Fields} {entry : Text × Value} (member : entry ∈ fields)
      (inside : Within v entry.2) : Within v (.object fields)

/-- Every integer in the value is a floating point number, and every text with a base mark fits one. -/
structure Representable (v : Value) : Prop where
  exact : ∀ n, Within (.int n) v → ∃ x : Double, x.place? = some (.ofInt n)
  fits : ∀ t, Within (.text t) v → FitsNumber t

theorem Representable.item {items : List Value} {item : Value}
    (representable : Representable (.list items)) (member : item ∈ items) : Representable item :=
  ⟨fun n inside => representable.exact n (.item member inside),
    fun t inside => representable.fits t (.item member inside)⟩

theorem Representable.list {items : List Value} (each : ∀ item ∈ items, Representable item) :
    Representable (.list items) := by
  constructor
  · intro n inside
    cases inside with
    | item member inside => exact (each _ member).exact n inside
  · intro t inside
    cases inside with
    | item member inside => exact (each _ member).fits t inside

theorem representable_int {n : Int} (small : n.natAbs ≤ twoTo 53) : Representable (.int n) := by
  constructor
  · intro n' inside
    cases inside
    exact ⟨_, Double.place_ofInt_of_le small⟩
  · intro t inside
    cases inside

theorem Representable.of_fits {t : Text} (fits : FitsNumber t) : Representable (.text t) := by
  constructor
  · intro n inside
    cases inside
  · intro t' inside
    cases inside
    exact fits

theorem representable_truth (b : Bool) : Representable (truth b) := by
  constructor <;> intro _ inside <;> cases inside

theorem Representable.place_toDouble {v : Value} {x : Number} (representable : Representable v)
    (number : v.number? = some x) : x.toDouble.place? = x.place? := by
  cases v with
  | int n =>
      cases number
      obtain ⟨x, place⟩ := representable.exact n .self
      exact Double.place_ofInt_of_place place
  | float x =>
      cases number
      rfl
  | _ => cases number

theorem looseItems_cons (item : Value) (rest : List Value) :
    ∃ part, looseItems (item :: rest) = part :: looseItems rest := by
  cases item <;> exact ⟨_, rfl⟩

/-- The text of a value fits if the texts in the value do. A list of several items has a comma, a list of
    one item has the text of the item. -/
theorem Representable.fits_looseText {v : Value} (representable : Representable v) :
    FitsNumber v.looseText := by
  cases v with
  | undefined => exact fits_of_read (x := .nan) (by decide)
  | null => exact fits_of_read (x := .nan) (by decide)
  | bool b => exact fits_of_read (x := .nan) (by cases b <;> decide)
  | object fields => exact fits_of_read (x := .nan) (by rw [looseText]; decide)
  | text t => exact representable.fits t .self
  | int n =>
      rw [looseText, looseInt_eq]
      exact fits_write _
  | float x => exact fits_write x
  | list items =>
      cases items with
      | nil => exact fits_of_read (x := .zero false) (by decide)
      | cons first rest =>
          cases rest with
          | cons second rest =>
              apply fits_of_comma
              obtain ⟨part, written⟩ := looseItems_cons first (second :: rest)
              obtain ⟨part', written'⟩ := looseItems_cons second rest
              rw [looseText, written, written']
              exact Text.mem_join (by decide)
          | nil =>
              cases given : first.isNullish with
              | true =>
                  rw [looseText, looseItems_of_nothing [] given]
                  exact fits_of_read (x := .zero false) (by decide)
              | false =>
                  rw [looseText, looseItems_of_something [] given]
                  exact (representable.item List.mem_cons_self).fits_looseText

/-- The algorithm, case by case. Two texts are equal if they have the same code points, two lists or objects
    if they are one and the same, which `same` tells. -/
inductive LooselyEqual (same : Bool) : Value → Value → Bool → Prop where
  | nothing {left right : Value} (nothing : left.isNullish = true) (nothing' : right.isNullish = true) :
      LooselyEqual same left right true
  | bools {a b : Bool} : LooselyEqual same (.bool a) (.bool b) (a == b)
  | numbers {left right : Value} {x y : Number} (number : left.number? = some x)
      (number' : right.number? = some y) : LooselyEqual same left right (x.toDouble.eq y.toDouble)
  | texts {s t : Text} : LooselyEqual same (.text s) (.text t) (s == t)
  | containers {left right : Value} (container : left.isContainer = true)
      (container' : right.isContainer = true) : LooselyEqual same left right same
  | numberText {left : Value} {x : Number} {t : Text} {y : Double} (number : left.number? = some x)
      (written : NumberOf t y) : LooselyEqual same left (.text t) (x.toDouble.eq y)
  | textNumber {right : Value} {s : Text} {x : Double} {y : Number} (written : NumberOf s x)
      (number : right.number? = some y) : LooselyEqual same (.text s) right (x.eq y.toDouble)
  | leftBool {b result : Bool} {right : Value} (other : ∀ b', right ≠ .bool b')
      (later : LooselyEqual same (truth b) right result) : LooselyEqual same (.bool b) right result
  | rightBool {b result : Bool} {left : Value} (other : ∀ b', left ≠ .bool b')
      (later : LooselyEqual same left (truth b) result) : LooselyEqual same left (.bool b) result
  | leftContainer {left right : Value} {t : Text} {result : Bool} (container : left.isContainer = true)
      (plain : right.isPlain = true) (written : TextOf left t)
      (later : LooselyEqual same (.text t) right result) : LooselyEqual same left right result
  | rightContainer {left right : Value} {t : Text} {result : Bool} (plain : left.isPlain = true)
      (container : right.isContainer = true) (written : TextOf right t)
      (later : LooselyEqual same left (.text t) result) : LooselyEqual same left right result
  | nothingLeft {left right : Value} (nothing : left.isNullish = true)
      (something : (right.isPlain || right.isContainer) = true) : LooselyEqual same left right false
  | nothingRight {left right : Value} (something : (left.isPlain || left.isContainer) = true)
      (nothing : right.isNullish = true) : LooselyEqual same left right false

variable {same : Bool} {left right : Value}

theorem isNullish_eq_false (something : (left.isPlain || left.isContainer) = true) :
    left.isNullish = false := by
  cases left <;> first | rfl | cases something

theorem truth_eq : ∀ a b : Bool, (Number.float (if a then .one else .zero false)).eq
    (.float (if b then .one else .zero false)) = (a == b) := by
  decide +kernel

/-- Loose equality has the result of the algorithm. -/
theorem LooselyEqual.result_eq {result : Bool} (equal : LooselyEqual same left right result)
    (representable : Representable left) (representable' : Representable right) :
    left.looseEq same right = .ok result := by
  induction equal with
  | nothing null null' =>
      rw [looseEq_of_nothing (by rw [null, Bool.true_or]), null, null']
      rfl
  | @bools a b => exact congrArg Except.ok (truth_eq a b)
  | numbers number number' =>
      rw [looseEq_of_numbers number number', Number.eq_toDouble (representable.place_toDouble number)
        (representable'.place_toDouble number')]
  | texts => rfl
  | containers container container' => exact looseEq_of_containers container container'
  | numberText number written =>
      rw [looseEq_text number, written.looseNumber_eq (representable'.fits _ .self)]
      exact congrArg Except.ok (Number.eq_toDouble (representable.place_toDouble number) rfl)
  | textNumber written number =>
      rw [text_looseEq _ number, written.looseNumber_eq (representable.fits _ .self)]
      exact congrArg Except.ok (Number.eq_toDouble rfl (representable'.place_toDouble number))
  | leftBool other later ih => exact ih (representable_truth _) representable'
  | rightBool other later ih => exact ih representable (representable_truth _)
  | leftContainer container plain written later ih =>
      obtain rfl := textOf_iff.mp written
      rw [← looseText_looseEq container plain]
      exact ih (.of_fits representable.fits_looseText) representable'
  | rightContainer plain container written later ih =>
      obtain rfl := textOf_iff.mp written
      rw [← looseEq_looseText plain container]
      exact ih representable (.of_fits representable'.fits_looseText)
  | nothingLeft null something =>
      rw [looseEq_of_nothing (by rw [null, Bool.true_or]), null, isNullish_eq_false something]
      rfl
  | nothingRight something null =>
      rw [looseEq_of_nothing (by rw [null, Bool.or_true]), null, isNullish_eq_false something]
      rfl

theorem looselyEqual_plain (same : Bool) (plain : left.isPlain = true) (plain' : right.isPlain = true) :
    ∃ result, LooselyEqual same left right result := by
  rcases number_or_text plain with ⟨x, number⟩ | ⟨s, rfl⟩
  · rcases number_or_text plain' with ⟨y, number'⟩ | ⟨t, rfl⟩
    · exact ⟨_, .numbers number number'⟩
    · obtain ⟨y, written⟩ := exists_numberOf t
      exact ⟨_, .numberText number written⟩
  · rcases number_or_text plain' with ⟨y, number'⟩ | ⟨t, rfl⟩
    · obtain ⟨x, written⟩ := exists_numberOf s
      exact ⟨_, .textNumber written number'⟩
    · exact ⟨_, .texts⟩

theorem looselyEqual_from_simple (same : Bool) (simple : left.isPlain = true ∨ left.isNullish = true)
    (right : Value) : ∃ result, LooselyEqual same left right result := by
  have notBool : ∀ b, left ≠ .bool b := by
    rintro b rfl
    rcases simple with plain | null
    · cases plain
    · cases null
  rcases simple with plain | null
  · have something : (left.isPlain || left.isContainer) = true := by rw [plain, Bool.true_or]
    rcases kinds right with null | ⟨b, rfl⟩ | plain' | container
    · exact ⟨_, .nothingRight something null⟩
    · obtain ⟨result, later⟩ := looselyEqual_plain same plain (isPlain_truth b)
      exact ⟨result, .rightBool notBool later⟩
    · exact looselyEqual_plain same plain plain'
    · obtain ⟨result, later⟩ := looselyEqual_plain same plain (isPlain_text right.looseText)
      exact ⟨result, .rightContainer plain container (textOf_looseText right) later⟩
  · rcases kinds right with null' | ⟨b, rfl⟩ | plain' | container
    · exact ⟨_, .nothing null null'⟩
    · exact ⟨_, .rightBool notBool (.nothingLeft null rfl)⟩
    · exact ⟨_, .nothingLeft null (by rw [plain', Bool.true_or])⟩
    · exact ⟨_, .nothingLeft null (by rw [container, Bool.or_true])⟩

theorem looselyEqual_container_plain (same : Bool) (container : left.isContainer = true)
    (plain : right.isPlain = true) : ∃ result, LooselyEqual same left right result := by
  obtain ⟨result, later⟩ := looselyEqual_plain same (isPlain_text left.looseText) plain
  exact ⟨result, .leftContainer container plain (textOf_looseText left) later⟩

/-- The algorithm ends for any two values. -/
theorem looselyEqual_any (same : Bool) (left right : Value) :
    ∃ result, LooselyEqual same left right result := by
  rcases kinds left with null | ⟨b, rfl⟩ | plain | container
  · exact looselyEqual_from_simple same (.inr null) right
  · by_cases bool : ∃ b', right = .bool b'
    · obtain ⟨b', rfl⟩ := bool
      exact ⟨_, .bools⟩
    · obtain ⟨result, later⟩ := looselyEqual_from_simple same (.inl (isPlain_truth b)) right
      exact ⟨result, .leftBool (not_exists.mp bool) later⟩
  · exact looselyEqual_from_simple same (.inl plain) right
  · have notBool : ∀ b, left ≠ .bool b := by
      rintro b rfl
      cases container
    rcases kinds right with null | ⟨b, rfl⟩ | plain | container'
    · exact ⟨_, .nothingRight (by rw [container, Bool.or_true]) null⟩
    · obtain ⟨result, later⟩ := looselyEqual_container_plain same container (isPlain_truth b)
      exact ⟨result, .rightBool notBool later⟩
    · exact looselyEqual_container_plain same container plain
    · exact ⟨_, .containers container container'⟩

end Value

/-- Loose equality is abstract equality. It does not fail for two values in which every integer is a floating
    point number and every literal with a base mark fits one, and its result is that of the algorithm, which
    has no other. -/
theorem looseEq_is_abstract_equality (same : Bool) {left right : Value}
    (representable : left.Representable) (representable' : right.Representable) :
    ∃ result, left.looseEq same right = .ok result ∧
      ∀ other, Value.LooselyEqual same left right other ↔ other = result := by
  obtain ⟨result, equal⟩ := Value.looselyEqual_any same left right
  have compared := equal.result_eq representable representable'
  refine ⟨result, compared, fun other => ⟨fun equal' => ?_, fun same => same ▸ equal⟩⟩
  have compared' := equal'.result_eq representable representable'
  rw [compared] at compared'
  exact (Except.ok.inj compared').symm

example : (Value.list [.null, .undefined]).looseEq false (.text ",") = .ok true := by decide
example : Value.undefined.looseEq false (.bool false) = .ok false := by decide

/-- A list of a list of a literal with a base mark is as good as its number. -/
theorem nested_literal_is_abstractly_equal :
    Value.LooselyEqual false (.list [.list [.text " 0x10 "]]) (.int 16) true := by
  have fits : FitsNumber " 0x10 " := fits_of_read (x := .ofInt 16) (by decide +kernel)
  have text : Value.Representable (.list [.text " 0x10 "]) :=
    .list (List.forall_mem_singleton.mpr (.of_fits fits))
  have number : Value.Representable (.int 16) := Value.representable_int (by decide)
  obtain ⟨result, compared, only⟩ :=
    looseEq_is_abstract_equality false (.list (List.forall_mem_singleton.mpr text)) number
  have equal : (Value.list [.list [.text " 0x10 "]]).looseEq false (.int 16) = .ok true := by
    decide +kernel
  rw [equal] at compared
  exact (only true).mpr (Except.ok.inj compared)

end UnitRouting
