import UnitRouting.Proofs.Outcome
import UnitRouting.Proofs.Text.Digits
import UnitRouting.Value.Display

/-! # Given values have a text

No value is shown as the empty text. A text stands for itself, so among the values that have an empty
text of their own there is only the empty text, which does not count as given. -/

namespace UnitRouting

open Outcome

namespace Layout

theorem positive_ne_nil {layout : Layout} (marked : layout.wholeMark ≠ []) (digits : Text)
    (point : Int) : layout.positive digits point ≠ [] := by
  have dot : Text.ofString "." ≠ [] := List.cons_ne_nil _ _
  have exponent : Text.ofString "e" ≠ [] := List.cons_ne_nil _ _
  unfold positive
  dsimp only
  split
  · split
    · simp only [ne_eq, List.append_eq_nil_iff, marked, and_false, not_false_eq_true]
    · split
      · simp only [ne_eq, List.append_eq_nil_iff, dot, false_and, and_false, not_false_eq_true]
      · exact List.cons_ne_nil _ _
  · simp only [ne_eq, List.append_eq_nil_iff, exponent, false_and, and_false, not_false_eq_true]

theorem write_display_ne_nil (x : Double) : display.write x ≠ [] := by
  have marked : display.wholeMark ≠ [] := List.cons_ne_nil _ _
  cases x with
  | nan => exact List.cons_ne_nil _ _
  | infinite negative =>
      have word : display.infinity ≠ [] := List.cons_ne_nil _ _
      exact List.append_ne_nil_of_right_ne_nil _ word
  | finite negative mantissa exponent canonical =>
      unfold write
      dsimp only
      split
      · exact List.append_ne_nil_of_right_ne_nil _ marked
      · exact List.append_ne_nil_of_right_ne_nil _ (positive_ne_nil marked _ _)

end Layout

theorem Text.ofInt_ne_nil (n : Int) : Text.ofInt n ≠ [] := by
  cases n with
  | ofNat n => exact Text.ofNat_ne_nil n
  | negSucc n => exact List.cons_ne_nil _ _

namespace Value

theorem shown_ne_nil {v : Value} {t : Text} (shown : v.shown = .ok t) : t ≠ [] := by
  cases v with
  | int n =>
      rw [Value.shown, numeral] at shown
      split at shown
      · cases shown
        exact Text.ofInt_ne_nil n
      · cases shown
  | float x =>
      cases shown
      exact Layout.write_display_ne_nil x
  | bool b => cases b <;> cases shown <;> exact List.cons_ne_nil _ _
  | list items =>
      obtain ⟨parts, -, whole⟩ := bind_eq_ok.mp shown
      cases whole
      exact List.cons_ne_nil _ _
  | object fields =>
      obtain ⟨parts, -, whole⟩ := bind_eq_ok.mp shown
      cases whole
      exact List.cons_ne_nil _ _
  | undefined | null | text =>
      cases shown
      exact List.cons_ne_nil _ _

theorem display_ne_nil {v : Value} (given : v.isGiven = true) {t : Text}
    (shown : v.display = .ok t) : t ≠ [] := by
  unfold display at shown
  split at shown
  · cases shown
    simpa [isGiven] using given
  · exact shown_ne_nil shown

end Value

end UnitRouting
