import UnitRouting.Text.Basic

/-! # The order of texts

Texts are ordered by their first difference; a text stands before those that go on from it. -/

namespace UnitRouting.Text

theorem le_total (s t : Text) : (le s t || le t s) = true := by
  induction s generalizing t with
  | nil => simp [le]
  | cons a s ih =>
      cases t with
      | nil => simp [le]
      | cons b t =>
          rcases Nat.lt_trichotomy a.val b.val with less | same | more
          · simp [le, less]
          · simpa [le, same] using ih t
          · simp [le, more]

theorem le_antisymm {s t : Text} (below : le s t = true) (above : le t s = true) : s = t := by
  induction s generalizing t with
  | nil =>
      cases t with
      | nil => rfl
      | cons b t => cases above
  | cons a s ih =>
      cases t with
      | nil => cases below
      | cons b t =>
          rcases Nat.lt_trichotomy a.val b.val with less | same | more
          · simp [le, less, Nat.not_lt.mpr (Nat.le_of_lt less)] at above
          · have first : a = b := by
              cases a
              cases b
              cases same
              rfl
            simp only [le, same, Nat.lt_irrefl, if_false] at below above
            rw [first, ih below above]
          · simp [le, more, Nat.not_lt.mpr (Nat.le_of_lt more)] at below

theorem le_trans {s t u : Text} (first : le s t = true) (second : le t u = true) :
    le s u = true := by
  induction s generalizing t u with
  | nil => rfl
  | cons a s ih =>
      cases t with
      | nil => cases first
      | cons b t =>
          cases u with
          | nil => cases second
          | cons c u =>
              simp only [le] at first second ⊢
              grind

end UnitRouting.Text
