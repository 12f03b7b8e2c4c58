import UnitRouting.Number.Basic
import UnitRouting.Proofs.Number.Exact

/-! # Exact and rounded comparison

Equality takes an integer as it is, order takes the floating point number nearest to it. The two agree
but for integers that are no floating point numbers: these equal none, yet they lie neither below nor
above the one that they are rounded to. -/

namespace UnitRouting

namespace Double

theorem ofRatio_ne_nan (negative : Bool) (num den : Nat) : ofRatio negative num den ≠ .nan := by
  have scaled (mantissa : Nat) (exponent : Int) : ofScaled negative mantissa exponent ≠ .nan := by
    unfold ofScaled
    split
    · intro same
      cases same
    · intro same
      cases same
  unfold ofRatio
  split
  · intro same
    cases same
  · dsimp only
    split <;> exact scaled _ _

theorem exists_place {x : Double} (number : x ≠ .nan) : ∃ a, x.place? = some a := by
  cases x with
  | nan => exact absurd rfl number
  | infinite negative => exact ⟨_, rfl⟩
  | finite negative mantissa exponent canonical => exact ⟨_, rfl⟩

theorem Place.count_comparisons (a b : Place) :
    [decide (a = b), b.lt a, a.lt b].count true = 1 := by
  cases a with
  | below => cases b <;> rfl
  | above => cases b <;> rfl
  | «at» m =>
      cases b with
      | below | above => rfl
      | «at» n =>
          simp only [Place.lt, Place.at.injEq]
          rcases Int.lt_trichotomy m n with less | rfl | more
          · simp [less, Int.ne_of_lt less, Int.le_of_lt less]
          · simp
          · simp [more, Int.ne_of_gt more, Int.le_of_lt more]

end Double

namespace Number

variable {x : Number} {d : Double}

/-- The number is none that equals `d`, but is rounded to it. -/
def roundsOnto (x : Number) (d : Double) : Bool := x.toDouble.eq d && !x.eq (.float d)

theorem toDouble_ne_nan (number : x ≠ .float .nan) : x.toDouble ≠ .nan := by
  cases x with
  | int n => exact Double.ofRatio_ne_nan _ _ _
  | float y =>
      rintro rfl
      exact number rfl

theorem place_toDouble {a : Double.Place} (here : x.place? = some a) (there : d.place? = some a) :
    x.toDouble.place? = some a := by
  cases x with
  | float y => exact here
  | int n =>
      cases here
      exact Double.place_ofInt_of_place there

/-- One of the three comparisons holds, unless the number is rounded onto the other one. -/
theorem count_comparisons (number : x ≠ .float .nan) (other : d ≠ .nan) :
    [x.eq (.float d), d.lt x.toDouble, x.toDouble.lt d].count true =
      if x.roundsOnto d then 0 else 1 := by
  obtain ⟨a, rounded⟩ := Double.exists_place (toDouble_ne_nan number)
  obtain ⟨b, there⟩ := Double.exists_place other
  obtain ⟨c, here⟩ : ∃ c, x.place? = some c := by
    cases x with
    | int n => exact ⟨_, rfl⟩
    | float y => exact ⟨a, rounded⟩
  have agrees : c = b → a = b := by
    rintro rfl
    exact Option.some.inj (rounded.symm.trans (place_toDouble here there))
  have float : (Number.float d).place? = some b := there
  have equal : x.eq (.float d) = decide (c = b) := by simp only [eq, here, float]
  have same : x.toDouble.eq d = decide (a = b) := by simp only [Double.eq, rounded, there]
  have more : d.lt x.toDouble = b.lt a := by simp only [Double.lt, rounded, there]
  have less : x.toDouble.lt d = a.lt b := by simp only [Double.lt, rounded, there]
  have one := Double.Place.count_comparisons a b
  rw [roundsOnto, equal, same, more, less]
  by_cases exact : c = b
  · simpa [exact, agrees exact] using one
  · by_cases onto : a = b
    · simpa [exact, onto] using one
    · simpa [exact, onto] using one

theorem large_of_roundsOnto (rounded : x.roundsOnto d = true) :
    ∃ n : Int, x = .int n ∧ twoTo 53 < n.natAbs := by
  simp only [roundsOnto, Bool.and_eq_true, Bool.not_eq_true'] at rounded
  obtain ⟨same, apart⟩ := rounded
  cases x with
  | float y => exact absurd same (Bool.eq_false_iff.mp apart)
  | int n =>
      refine ⟨n, rfl, ?_⟩
      by_contra small
      have exact : (Double.ofInt n).place? = some (.ofInt n) :=
        Double.place_ofInt_of_le (Nat.le_of_not_lt small)
      have unrounded : (Number.int n).eq (.float d) = (Double.ofInt n).eq d := by
        cases there : d.place? <;> simp only [eq, Double.eq, place?, exact, there]
      exact absurd same (Bool.eq_false_iff.mp (unrounded ▸ apart))

end Number

end UnitRouting
