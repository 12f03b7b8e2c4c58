import Mathlib.Data.List.DropRight
import UnitRouting.Text.Blank

/-! # Stripped text

Stripping leaves nothing to strip. -/

namespace UnitRouting.Text

theorem trim_eq_rdropWhile (skip : CodePoint → Bool) (t : Text) :
    t.trim skip = (t.dropWhile skip).rdropWhile skip := rfl

theorem rdropWhile_cons_of_neg {skip : CodePoint → Bool} {c : CodePoint} (kept : skip c = false)
    (t : Text) : ∃ tail, (c :: t).rdropWhile skip = c :: tail := by
  obtain ⟨cut, split⟩ := List.rdropWhile_prefix skip (l := c :: t)
  cases left : (c :: t).rdropWhile skip with
  | nil =>
      have all := List.rdropWhile_eq_nil_iff.mp left c List.mem_cons_self
      rw [kept] at all
      cases all
  | cons d tail =>
      rw [left] at split
      cases split
      exact ⟨tail, rfl⟩

theorem trim_trim (skip : CodePoint → Bool) (t : Text) : (t.trim skip).trim skip = t.trim skip := by
  simp only [trim_eq_rdropWhile]
  have front : ((t.dropWhile skip).rdropWhile skip).dropWhile skip =
      (t.dropWhile skip).rdropWhile skip := by
    cases start : t.dropWhile skip with
    | nil => rfl
    | cons c rest =>
        have kept : skip c = false := by
          simpa only [start, List.head_cons] using
            List.head_dropWhile_not skip (l := t) (by simp [start])
        obtain ⟨tail, left⟩ := rdropWhile_cons_of_neg kept rest
        rw [left, List.dropWhile_cons, kept]
        rfl
  rw [front, List.rdropWhile_idempotent]

theorem strip_strip (t : Text) : t.strip.strip = t.strip := trim_trim CodePoint.isBlank t

theorem strip_of_mem_members {t m : Text} (member : m ∈ t.members) : m.strip = m := by
  unfold members at member
  split at member
  · cases member
  · obtain ⟨piece, -, rfl⟩ := List.mem_map.mp member
    exact strip_strip piece

theorem ne_nil_of_strip {t : Text} (visible : t.strip ≠ []) : t ≠ [] := by
  rintro rfl
  exact visible rfl

theorem dropWhile_of_head {skip : CodePoint → Bool} {t : Text}
    (first : ∀ c ∈ t.head?, skip c = false) : t.dropWhile skip = t := by
  cases t with
  | nil => rfl
  | cons c rest => rw [List.dropWhile_cons, first c rfl, if_neg Bool.false_ne_true]

theorem trim_append {skip : CodePoint → Bool} {front body back : Text}
    (leading : ∀ c ∈ front, skip c = true) (trailing : ∀ c ∈ back, skip c = true)
    (first : ∀ c ∈ body.head?, skip c = false) (last : ∀ c ∈ body.getLast?, skip c = false) :
    (front ++ (body ++ back)).trim skip = body := by
  have behind : (body ++ back).reverse.dropWhile skip = body.reverse := by
    rw [List.reverse_append, List.dropWhile_append_of_pos (by simpa using trailing)]
    apply dropWhile_of_head
    rwa [List.head?_reverse]
  rw [trim, List.dropWhile_append_of_pos leading]
  cases body with
  | nil => simp [List.dropWhile_eq_nil_iff.mpr trailing]
  | cons c rest =>
      have whole : (c :: rest ++ back).dropWhile skip = c :: rest ++ back := dropWhile_of_head first
      rw [whole, behind, List.reverse_reverse]

theorem exists_trim (skip : CodePoint → Bool) (t : Text) : ∃ front back,
    t = front ++ (t.trim skip ++ back) ∧ (∀ c ∈ front, skip c = true) ∧ (∀ c ∈ back, skip c = true) ∧
      (∀ c ∈ (t.trim skip).head?, skip c = false) ∧ ∀ c ∈ (t.trim skip).getLast?, skip c = false := by
  have split : t.dropWhile skip = t.trim skip ++ ((t.dropWhile skip).reverse.takeWhile skip).reverse := by
    rw [trim, ← List.reverse_append, List.takeWhile_append_dropWhile, List.reverse_reverse]
  refine ⟨t.takeWhile skip, ((t.dropWhile skip).reverse.takeWhile skip).reverse, ?_, ?_, ?_, ?_, ?_⟩
  · rw [← split, List.takeWhile_append_dropWhile]
  · exact fun c member => List.mem_takeWhile_imp member
  · exact fun c member => List.mem_takeWhile_imp (List.mem_reverse.mp member)
  · intro c member
    have stops := List.head?_dropWhile_not skip t
    rw [split, List.mem_head?_append_of_mem_head? member] at stops
    simpa using stops
  · intro c member
    have stops := List.head?_dropWhile_not skip (t.dropWhile skip).reverse
    rw [trim, List.getLast?_reverse] at member
    rw [member] at stops
    simpa using stops

end UnitRouting.Text
