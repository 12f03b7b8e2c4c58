import UnitRouting.Value.Loose

/-! # Loose equality is symmetric

The comparison as a recursion: a boolean gives way to its number and then the pair is compared anew, a
list or an object to its text, the left operand before the right one. Though the operands are not treated
alike on the way, both orders end after at most two conversions, with the same result or the same
fault. -/

namespace UnitRouting

theorem Number.eq_comm (x y : Number) : x.eq y = y.eq x := by
  unfold Number.eq
  cases x.place? with
  | none => cases y.place? <;> rfl
  | some a =>
      cases y.place? with
      | none => rfl
      | some b => exact decide_eq_decide.mpr Eq.comm

namespace Value

theorem Primitive.looseEq_comm (a b : Primitive) : a.looseEq b = b.looseEq a := by
  cases a with
  | number x =>
      cases b with
      | number y => exact congrArg Except.ok (Number.eq_comm x y)
      | text t => simp only [looseEq, Number.eq_comm x]
  | text s =>
      cases b with
      | number y => simp only [looseEq, Number.eq_comm y]
      | text t => exact congrArg Except.ok Bool.beq_comm

theorem looseEq_comm (same : Bool) (left right : Value) :
    left.looseEq same right = right.looseEq same left := by
  unfold looseEq
  cases left.primitive? with
  | none => cases right.primitive? <;> rfl
  | some a =>
      cases right.primitive? with
      | none => rfl
      | some b => simp only [Bool.and_comm left.isContainer, Primitive.looseEq_comm a b]

/-- The number of a boolean. -/
def truth (b : Bool) : Value := .float (if b then .one else .zero false)

/-- Numbers and texts, which are compared as they are. -/
def isPlain : Value → Bool
  | .int _ | .float _ | .text _ => true
  | _ => false

/-- The result of comparing two values after so many conversions, `same` telling whether they are one and
    the same list or object. -/
inductive Compares (same : Bool) : Nat → Value → Value → Except Fault Bool → Prop where
  | nothing {left right : Value} (nothing : (left.isNullish || right.isNullish) = true) :
      Compares same 0 left right (.ok (left.isNullish && right.isNullish))
  | leftBool {b : Bool} {right : Value} {count : Nat} {result : Except Fault Bool}
      (something : right.isNullish = false) (later : Compares same count (truth b) right result) :
      Compares same (count + 1) (.bool b) right result
  | rightBool {b : Bool} {left : Value} {count : Nat} {result : Except Fault Bool}
      (something : (left.isPlain || left.isContainer) = true)
      (later : Compares same count left (truth b) result) :
      Compares same (count + 1) left (.bool b) result
  | numbers {left right : Value} {x y : Number} (number : left.number? = some x)
      (number' : right.number? = some y) : Compares same 0 left right (.ok (x.eq y))
  | texts {s t : Text} : Compares same 0 (.text s) (.text t) (.ok (s == t))
  | numberText {left : Value} {x : Number} {t : Text} (number : left.number? = some x) :
      Compares same 0 left (.text t) ((Value.text t).looseNumber.map fun y => x.eq (.float y))
  | textNumber {right : Value} {s : Text} {y : Number} (number : right.number? = some y) :
      Compares same 0 (.text s) right ((Value.text s).looseNumber.map fun x => (Number.float x).eq y)
  | containers {left right : Value} (container : left.isContainer = true)
      (container' : right.isContainer = true) : Compares same 0 left right (.ok same)
  | leftContainer {left right : Value} {count : Nat} {result : Except Fault Bool}
      (container : left.isContainer = true) (plain : right.isPlain = true)
      (later : Compares same count (.text left.looseText) right result) :
      Compares same (count + 1) left right result
  | rightContainer {left right : Value} {count : Nat} {result : Except Fault Bool}
      (plain : left.isPlain = true) (container : right.isContainer = true)
      (later : Compares same count left (.text right.looseText) result) :
      Compares same (count + 1) left right result

variable {same : Bool} {left right : Value}

theorem primitive?_of_number {x : Number} (number : left.number? = some x) :
    left.primitive? = some (.number x) ∧ left.isContainer = false := by
  cases left <;> cases number <;> exact ⟨rfl, rfl⟩

theorem primitive?_of_container (container : left.isContainer = true) :
    left.primitive? = some (.text left.looseText) := by
  cases left <;> first | rfl | cases container

theorem isContainer_of_isPlain (plain : left.isPlain = true) : left.isContainer = false := by
  cases left <;> first | rfl | cases plain

theorem looseEq_of_nothing (nothing : (left.isNullish || right.isNullish) = true) :
    left.looseEq same right = .ok (left.isNullish && right.isNullish) := by
  have form (v : Value) : v.primitive? = none ∧ v.isNullish = true ∨
      ∃ a, v.primitive? = some a ∧ v.isNullish = false := by
    cases v <;> simp [primitive?, isNullish]
  unfold looseEq
  rcases form left with ⟨none, null⟩ | ⟨a, some, given⟩
  · rcases form right with ⟨none', null'⟩ | ⟨b, some', given'⟩
    · rw [none, none', null, null']
      rfl
    · rw [none, some', null, given']
      rfl
  · rcases form right with ⟨none', null'⟩ | ⟨b, some', given'⟩
    · rw [some, none', given, null']
      rfl
    · rw [given, given'] at nothing
      cases nothing

theorem looseEq_of_primitives {a b : Primitive} (form : left.primitive? = some a)
    (form' : right.primitive? = some b) (apart : (left.isContainer && right.isContainer) = false) :
    left.looseEq same right = a.looseEq b := by
  simp only [looseEq, form, form', apart, Bool.false_eq_true, if_false]

theorem primitive?_of_isPlain (plain : left.isPlain = true) : ∃ a, left.primitive? = some a := by
  cases left <;> first | exact ⟨_, rfl⟩ | cases plain

theorem looseEq_of_numbers {x y : Number} (number : left.number? = some x)
    (number' : right.number? = some y) : left.looseEq same right = .ok (x.eq y) := by
  obtain ⟨form, apart⟩ := primitive?_of_number number
  apply looseEq_of_primitives form (primitive?_of_number number').1
  rw [apart, Bool.false_and]

theorem looseEq_text {x : Number} (number : left.number? = some x) (t : Text) :
    left.looseEq same (.text t) = (Value.text t).looseNumber.map fun y => x.eq (.float y) := by
  have form : (Value.text t).primitive? = some (.text t) := rfl
  rw [looseEq_of_primitives (primitive?_of_number number).1 form (Bool.and_false _)]
  rfl

theorem text_looseEq {y : Number} (s : Text) (number : right.number? = some y) :
    (Value.text s).looseEq same right = (Value.text s).looseNumber.map fun x => (Number.float x).eq y := by
  have form : (Value.text s).primitive? = some (.text s) := rfl
  rw [looseEq_of_primitives form (primitive?_of_number number).1 (Bool.false_and _)]
  rfl

theorem looseEq_of_containers (container : left.isContainer = true)
    (container' : right.isContainer = true) : left.looseEq same right = .ok same := by
  simp only [looseEq, primitive?_of_container container, primitive?_of_container container',
    container, container', Bool.and_self, if_true]

theorem looseText_looseEq (container : left.isContainer = true) (plain : right.isPlain = true) :
    (Value.text left.looseText).looseEq same right = left.looseEq same right := by
  obtain ⟨b, form⟩ := primitive?_of_isPlain plain
  rw [looseEq_of_primitives rfl form rfl, looseEq_of_primitives (primitive?_of_container container) form]
  rw [isContainer_of_isPlain plain, Bool.and_false]

theorem looseEq_looseText (plain : left.isPlain = true) (container : right.isContainer = true) :
    left.looseEq same (.text right.looseText) = left.looseEq same right := by
  rw [looseEq_comm, looseText_looseEq container plain, looseEq_comm]

/-- Every step of the recursion keeps the result. -/
theorem Compares.result_eq {count : Nat} {result : Except Fault Bool}
    (compares : Compares same count left right result) : result = left.looseEq same right := by
  induction compares with
  | nothing nothing => exact (looseEq_of_nothing nothing).symm
  | leftBool something later ih => exact ih
  | rightBool something later ih => exact ih
  | numbers number number' => exact (looseEq_of_numbers number number').symm
  | texts => rfl
  | numberText number => exact (looseEq_text number _).symm
  | textNumber number => exact (text_looseEq _ number).symm
  | containers container container' => exact (looseEq_of_containers container container').symm
  | leftContainer container plain later ih => exact ih.trans (looseText_looseEq container plain)
  | rightContainer plain container later ih => exact ih.trans (looseEq_looseText plain container)

theorem number_or_text (plain : left.isPlain = true) :
    (∃ x, left.number? = some x) ∨ ∃ t, left = .text t := by
  cases left with
  | int | float => exact .inl ⟨_, rfl⟩
  | text t => exact .inr ⟨t, rfl⟩
  | _ => cases plain

theorem compares_plain (same : Bool) (plain : left.isPlain = true) (plain' : right.isPlain = true) :
    ∃ result, Compares same 0 left right result := by
  rcases number_or_text plain with ⟨x, number⟩ | ⟨s, rfl⟩
  · rcases number_or_text plain' with ⟨y, number'⟩ | ⟨t, rfl⟩
    · exact ⟨_, .numbers number number'⟩
    · exact ⟨_, .numberText number⟩
  · rcases number_or_text plain' with ⟨y, number'⟩ | ⟨t, rfl⟩
    · exact ⟨_, .textNumber number'⟩
    · exact ⟨_, .texts⟩

theorem kinds (v : Value) : v.isNullish = true ∨ (∃ b, v = .bool b) ∨ v.isPlain = true ∨
    v.isContainer = true := by
  cases v <;> simp [isNullish, isPlain, isContainer]

theorem isPlain_truth (b : Bool) : (truth b).isPlain = true := rfl

theorem isPlain_text (t : Text) : (Value.text t).isPlain = true := rfl

theorem compares_from_plain (same : Bool) (plain : left.isPlain = true) (right : Value) :
    ∃ count ≤ 1, ∃ result, Compares same count left right result := by
  rcases kinds right with null | ⟨b, rfl⟩ | plain' | container
  · exact ⟨0, by decide, _, .nothing (by rw [null, Bool.or_true])⟩
  · obtain ⟨result, later⟩ := compares_plain same plain (isPlain_truth b)
    exact ⟨1, by decide, result, .rightBool (by rw [plain, Bool.true_or]) later⟩
  · obtain ⟨result, compares⟩ := compares_plain same plain plain'
    exact ⟨0, by decide, result, compares⟩
  · obtain ⟨result, later⟩ := compares_plain same plain (isPlain_text right.looseText)
    exact ⟨1, by decide, result, .rightContainer plain container later⟩

theorem compares_container_plain (same : Bool) (container : left.isContainer = true)
    (plain : right.isPlain = true) : ∃ result, Compares same 1 left right result := by
  obtain ⟨result, later⟩ := compares_plain same (isPlain_text left.looseText) plain
  exact ⟨result, .leftContainer container plain later⟩

/-- Each operand is converted once at the most. -/
theorem compares_any (same : Bool) (left right : Value) :
    ∃ count ≤ 2, ∃ result, Compares same count left right result := by
  by_cases nothing : (left.isNullish || right.isNullish) = true
  · exact ⟨0, by decide, _, .nothing nothing⟩
  obtain ⟨given, given'⟩ : left.isNullish = false ∧ right.isNullish = false := by
    simpa only [Bool.not_eq_true, Bool.or_eq_false_iff] using nothing
  rcases kinds left with null | ⟨b, rfl⟩ | plain | container
  · rw [given] at null
    cases null
  · obtain ⟨count, few, result, later⟩ := compares_from_plain same (isPlain_truth b) right
    exact ⟨count + 1, Nat.succ_le_succ few, result, .leftBool given' later⟩
  · obtain ⟨count, few, compares⟩ := compares_from_plain same plain right
    exact ⟨count, Nat.le_succ_of_le few, compares⟩
  · rcases kinds right with null | ⟨b, rfl⟩ | plain | container'
    · rw [given'] at null
      cases null
    · obtain ⟨result, later⟩ := compares_container_plain same container (isPlain_truth b)
      exact ⟨2, by decide, result, .rightBool (by rw [container, Bool.or_true]) later⟩
    · obtain ⟨result, compares⟩ := compares_container_plain same container plain
      exact ⟨1, by decide, result, compares⟩
    · exact ⟨0, by decide, _, .containers container container'⟩

end Value

/-- Loose equality does not depend on the order of its operands, the fault included, and comparing any two
    values ends after at most two conversions. -/
theorem looseEq_symmetric_and_ends (same : Bool) (left right : Value) :
    left.looseEq same right = right.looseEq same left ∧
    (∃ count ≤ 2, Value.Compares same count left right (left.looseEq same right)) ∧
    ∀ count result, Value.Compares same count left right result →
      result = left.looseEq same right := by
  obtain ⟨count, few, result, compares⟩ := Value.compares_any same left right
  refine ⟨Value.looseEq_comm same left right, ⟨count, few, ?_⟩, fun _ _ => Value.Compares.result_eq⟩
  rw [← compares.result_eq]
  exact compares

end UnitRouting
