import UnitRouting.Proofs.Text.Strip

/-! # Members of comma-separated text

Members that are joined by a comma and a space are read back as they were, but for two losses: a
member with a comma in it comes back as several, and a single empty member comes back as none. -/

namespace UnitRouting.Text

variable {separator : CodePoint}

theorem splitOn_cons_of_ne {c : CodePoint} (ne : c ≠ separator) {t piece : Text}
    {pieces : List Text} (split : t.splitOn separator = piece :: pieces) :
    splitOn separator (c :: t) = (c :: piece) :: pieces := by
  simp only [splitOn, if_neg ne, split]

theorem splitOn_of_not_mem {t : Text} (free : separator ∉ t) : t.splitOn separator = [t] := by
  induction t with
  | nil => rfl
  | cons c rest ih =>
      simp only [List.mem_cons, not_or] at free
      exact splitOn_cons_of_ne (Ne.symm free.1) (ih free.2)

theorem splitOn_append_cons {front : Text} (free : separator ∉ front) (back : Text) :
    splitOn separator (front ++ separator :: back) = front :: splitOn separator back := by
  induction front with
  | nil => simp [splitOn]
  | cons c rest ih =>
      simp only [List.mem_cons, not_or] at free
      exact splitOn_cons_of_ne (Ne.symm free.1) (ih free.2)

theorem not_mem_of_mem_splitOn {t piece : Text} (member : piece ∈ t.splitOn separator) :
    separator ∉ piece := by
  induction t generalizing piece with
  | nil => simp_all [splitOn]
  | cons c rest ih =>
      by_cases same : c = separator
      · simp only [splitOn, if_pos same, List.mem_cons] at member
        rcases member with rfl | later
        · simp
        · exact ih later
      · cases split : splitOn separator rest with
        | nil =>
            simp only [splitOn, if_neg same, split, List.mem_singleton] at member
            simpa [member] using Ne.symm same
        | cons first others =>
            rw [splitOn_cons_of_ne same split] at member
            rcases List.mem_cons.mp member with rfl | later
            · have free : separator ∉ first := ih (by simp [split])
              simp [free, Ne.symm same]
            · exact ih (by simp [split, later])

theorem splitOn_ne_nil (separator : CodePoint) (t : Text) : t.splitOn separator ≠ [] := by
  induction t with
  | nil => exact List.cons_ne_nil _ _
  | cons c rest ih =>
      simp only [splitOn]
      split
      · exact List.cons_ne_nil _ _
      · split <;> exact List.cons_ne_nil _ _

theorem splitOn_append (front back : Text) :
    splitOn separator (front ++ separator :: back) =
      splitOn separator front ++ splitOn separator back := by
  induction front with
  | nil => simp [splitOn]
  | cons c rest ih =>
      by_cases same : c = separator
      · simp [splitOn, same, ih]
      · obtain ⟨piece, pieces, split⟩ := List.exists_cons_of_ne_nil (splitOn_ne_nil separator rest)
        rw [split, List.cons_append] at ih
        rw [List.cons_append, splitOn_cons_of_ne same ih, splitOn_cons_of_ne same split,
          List.cons_append]

theorem join_splitOn (separator : CodePoint) (t : Text) :
    join [separator] (t.splitOn separator) = t := by
  induction t with
  | nil => rfl
  | cons c rest ih =>
      obtain ⟨piece, pieces, split⟩ := List.exists_cons_of_ne_nil (splitOn_ne_nil separator rest)
      rw [split] at ih
      by_cases same : c = separator
      · simp only [splitOn, same, if_true, split, join, List.nil_append, List.singleton_append, ih]
      · simp only [splitOn, same, if_false, split]
        cases pieces with
        | nil =>
            simp only [join] at ih ⊢
            rw [ih]
        | cons next pieces =>
            simp only [join, List.cons_append] at ih ⊢
            rw [ih]

theorem splitOn_join_of_free {piece : Text} {pieces : List Text}
    (free : ∀ p ∈ piece :: pieces, separator ∉ p) :
    (join [separator] (piece :: pieces)).splitOn separator = piece :: pieces := by
  induction pieces generalizing piece with
  | nil => exact splitOn_of_not_mem (free piece List.mem_cons_self)
  | cons next pieces ih =>
      obtain ⟨first, later⟩ := List.forall_mem_cons.mp free
      rw [join, List.append_assoc, List.singleton_append, splitOn_append_cons first, ih later]
      exact List.cons_ne_nil next pieces

/-- The part in front of the first separator, or the whole text if there is none. -/
def before (separator : CodePoint) (t : Text) : Text := t.takeWhile (· ≠ separator)

theorem exists_splitOn (separator : CodePoint) (t : Text) :
    ∃ pieces, t.splitOn separator = t.before separator :: pieces := by
  induction t with
  | nil => exact ⟨[], rfl⟩
  | cons c rest ih =>
      by_cases same : c = separator
      · exact ⟨splitOn separator rest, by simp [splitOn, before, same]⟩
      · obtain ⟨pieces, split⟩ := ih
        exact ⟨pieces, by simp [splitOn_cons_of_ne same split, before, same]⟩

theorem before_append_of_not_mem {front : Text} (free : separator ∉ front) (back : Text) :
    (front ++ back).before separator = front ++ back.before separator :=
  List.takeWhile_append_of_pos fun _ member =>
    decide_eq_true (ne_of_mem_of_not_mem member free)

theorem before_eq_self_iff {t : Text} : t.before separator = t ↔ separator ∉ t := by
  rw [before, List.takeWhile_eq_self_iff]
  simp only [decide_eq_true_eq]
  exact ⟨fun other member => other separator member rfl,
    fun free _ member => ne_of_mem_of_not_mem member free⟩

theorem strip_sublist (t : Text) : t.strip.Sublist t :=
  (List.rdropWhile_prefix CodePoint.isBlank _).sublist.trans (List.dropWhile_sublist _)

theorem strip_space_cons (t : Text) : strip (CodePoint.ofChar ' ' :: t) = strip t := rfl

theorem comma_not_mem_of_mem_members {t m : Text} (member : m ∈ t.members) :
    CodePoint.ofChar ',' ∉ m := by
  unfold members at member
  split at member
  · simp at member
  · obtain ⟨piece, given, rfl⟩ := List.mem_map.mp member
    intro inside
    exact not_mem_of_mem_splitOn given ((strip_sublist piece).subset inside)

theorem join_comma_cons (m next : Text) (rest : List Text) :
    join ", " (m :: next :: rest) =
      m ++ CodePoint.ofChar ',' :: CodePoint.ofChar ' ' :: join ", " (next :: rest) := by
  have comma : (", " : Text) = [CodePoint.ofChar ',', CodePoint.ofChar ' '] := rfl
  simp only [join, comma, List.append_assoc, List.cons_append, List.nil_append]

theorem splitOn_join {m : Text} {rest : List Text}
    (free : ∀ piece ∈ m :: rest, CodePoint.ofChar ',' ∉ piece) :
    (join ", " (m :: rest)).splitOn ',' = m :: rest.map (CodePoint.ofChar ' ' :: ·) := by
  induction rest generalizing m with
  | nil => exact splitOn_of_not_mem (free m List.mem_cons_self)
  | cons next rest ih =>
      have later := ih fun piece member => free piece (List.mem_cons_of_mem m member)
      have space : CodePoint.ofChar ' ' ≠ CodePoint.ofChar ',' := by decide
      rw [join_comma_cons, splitOn_append_cons (free m List.mem_cons_self),
        splitOn_cons_of_ne space later, List.map_cons]

/-- Stripped members are read back from their joined text exactly if none of them has a comma in it
    and they are not one empty member alone. -/
theorem members_join_iff {items : List Text} (stripped : ∀ m ∈ items, m.strip = m) :
    (join ", " items).members = items ↔
      (∀ m ∈ items, CodePoint.ofChar ',' ∉ m) ∧ items ≠ [[]] := by
  constructor
  · intro same
    constructor
    · intro m member
      rw [← same] at member
      exact comma_not_mem_of_mem_members member
    · rintro rfl
      cases same
  · rintro ⟨free, several⟩
    cases items with
    | nil => rfl
    | cons m rest =>
        have visible : (join ", " (m :: rest)).isEmpty = false := by
          cases rest with
          | nil => simpa [join] using several
          | cons next rest => simp [join_comma_cons]
        have first : m.strip = m := stripped m List.mem_cons_self
        have others : (rest.map (CodePoint.ofChar ' ' :: ·)).map strip = rest := by
          have each : ∀ n ∈ rest, strip (CodePoint.ofChar ' ' :: n) = n := by
            intro n member
            rw [strip_space_cons]
            exact stripped n (List.mem_cons_of_mem m member)
          rw [List.map_map]
          exact (List.map_congr_left each).trans (List.map_id' rest)
        simp only [members, visible, Bool.false_eq_true, if_false, splitOn_join free, List.map_cons,
          first, others]

end UnitRouting.Text
