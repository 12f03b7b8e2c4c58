import UnitRouting.Proofs.Json.Lexeme

/-! # What is read is in the grammar

The part of a text that a reader takes is a value by the grammar, and where it stops at an integer
that is too long there is one. Both come out of one induction on the steps down that reading takes. -/

namespace UnitRouting.Json

open Outcome

theorem eq_blank_append_skip (t : Text) : ∃ gap, t = gap ++ skip t ∧ Blank gap := by
  refine ⟨t.takeWhile isSpace, List.takeWhile_append_dropWhile.symm, ?_⟩
  intro c member
  exact List.mem_takeWhile_imp member

theorem blank_of_skip {t : Text} (empty : skip t = []) : Blank t := by
  obtain ⟨gap, split, blank⟩ := eq_blank_append_skip t
  rw [empty, List.append_nil] at split
  rwa [split]

theorem isComma_of_skip {t after : Text} (comma : skip t = CodePoint.ofChar ',' :: after) :
    ∃ w, t = w ++ skip after ∧ IsComma w := by
  obtain ⟨before, split, blank⟩ := eq_blank_append_skip t
  obtain ⟨behind, split', blank'⟩ := eq_blank_append_skip after
  refine ⟨before ++ CodePoint.ofChar ',' :: behind, ?_, .gaps blank blank'⟩
  rw [List.append_assoc, List.cons_append, ← split', ← comma, ← split]

theorem isName_of_skip {body t after : Text} (isBody : IsBody body)
    (colon : skip t = CodePoint.ofChar ':' :: after) : ∃ name,
      CodePoint.ofChar '"' :: (body ++ CodePoint.ofChar '"' :: t) = name ++ skip after ∧ IsName name := by
  obtain ⟨before, split, blank⟩ := eq_blank_append_skip t
  obtain ⟨behind, split', blank'⟩ := eq_blank_append_skip after
  refine ⟨_, ?_, .quoted isBody blank blank'⟩
  simp only [List.cons_append, List.append_assoc]
  rw [← split', ← colon, ← split]

theorem constant?_eq_some {t rest : Text} {v : Value} (read : constant? t = some (v, rest)) :
    ∃ name ∈ constantNames, t = name ++ rest := by
  obtain ⟨⟨name, value⟩, known, found⟩ := List.exists_of_findSome?_eq_some read
  obtain ⟨after, starts, same⟩ := Option.map_eq_some_iff.mp found
  cases same
  have named : constantNames = constants.map (·.1) := rfl
  exact ⟨name, named ▸ List.mem_map_of_mem known, (List.isPrefixOf?_eq_some_iff_append_eq.mp starts).symm⟩

theorem readBody_ne_numeralTooLong (opening t : Text) :
    readBody opening t ≠ .error .numeralTooLong := by
  have consText_ne {c : CodePoint} {result : Except ReadError (Text × Text)}
      (ne : result ≠ .error .numeralTooLong) : consText c result ≠ .error .numeralTooLong := by
    cases result with
    | ok pair =>
        intro same
        cases same
    | error e => simpa only [consText, ne_eq, Except.error.injEq] using ne
  fun_induction readBody opening t with
  | case1 | case2 | case3 | case4 | case7 | case9 | case10 =>
      intro same
      cases same
  | case5 _ _ _ _ _ _ _ _ _ _ _ ih => exact consText_ne ih
  | case6 _ _ _ _ _ _ _ _ _ _ ih => exact consText_ne ih
  | case8 _ _ _ _ _ _ ih => exact consText_ne ih
  | case11 _ _ _ _ _ ih => exact consText_ne ih

/-- The reader takes a part of the text that has a form, up to and with what closes it. If it finds an
    integer too long, the text is such that there is one. -/
def Takes {α : Type} (form tooLong : Text → Prop) (close t : Text)
    (result : Except ReadError (α × Text)) : Prop :=
  Settles (fun e => e = .numeralTooLong → tooLong t)
    (fun read => ∃ w, t = w ++ (close ++ read.2) ∧ form w) result

namespace Takes

variable {α β : Type} {form tooLong form' tooLong' : Text → Prop} {close close' t t' : Text}

theorem malformed (error : JsonError) (rest : Text) :
    Takes form tooLong close t (.error (.malformed error rest) : Except ReadError (α × Text)) :=
  .error nofun

theorem bind {first : Except ReadError (α × Text)} {next : α × Text → Except ReadError (β × Text)}
    (takes : Takes form tooLong close t first) (found : tooLong t → tooLong' t')
    (goes : ∀ a w rest, t = w ++ (close ++ rest) → form w →
      Takes form' tooLong' close' t' (next (a, rest))) :
    Takes form' tooLong' close' t' (first >>= next) := by
  cases takes with
  | @ok read here =>
      obtain ⟨w, split, taken⟩ := here
      exact goes read.1 w read.2 split taken
  | error here => exact .error fun long => found (here long)

end Takes

theorem readBody_takes (opening t : Text) :
    Takes IsBody (fun _ => False) [CodePoint.ofChar '"'] t (readBody opening t) := by
  cases read : readBody opening t with
  | ok pair =>
      obtain ⟨w, split, isBody⟩ := isBody_of_readBody read
      exact .ok ⟨w, split, isBody⟩
  | error e =>
      refine .error ?_
      rintro rfl
      exact readBody_ne_numeralTooLong opening t read

theorem number?_takes {limit : Nat} (positive : 0 < limit) {t : Text}
    {result : Except ReadError (Value × Text)} (read : number? (some limit) t = some result) :
    Takes IsNumber (LongInteger limit) [] t result := by
  cases result with
  | ok pair => exact .ok (isNumber_of_number? read)
  | error e => exact .error fun _ => (longInteger_of_number? positive read).2

/-- What is taken within so many steps down. -/
structure TakesWithin (limit fuel : Nat) : Prop where
  value : ∀ t, Takes IsValue (LongIn limit) [] t (readValue (some limit) fuel t)
  items : ∀ t, Takes IsItems (LongAmongItems limit) [CodePoint.ofChar ']'] t
    (readItems (some limit) fuel t)
  fields : ∀ acc t, Takes IsFields (LongAmongFields limit) [CodePoint.ofChar '\x7d'] t
    (readFields (some limit) fuel acc t)

namespace TakesWithin

variable {limit fuel : Nat}

theorem value_succ (positive : 0 < limit) (within : TakesWithin limit fuel) (t : Text) :
    Takes IsValue (LongIn limit) [] t (readValue (some limit) (fuel + 1) t) := by
  cases t with
  | nil => exact .malformed _ _
  | cons c tail =>
      simp only [readValue]
      obtain ⟨gap, behind, blank⟩ := eq_blank_append_skip tail
      split
      · next quote =>
          subst quote
          apply (readBody_takes _ tail).bind False.elim
          rintro body w rest rfl isBody
          exact .ok ⟨_, by simp only [List.cons_append, List.append_assoc, List.nil_append],
            .text isBody⟩
      split
      · next brace =>
          subst brace
          split
          · exact .malformed _ _
          · next d after start =>
              rw [start] at behind
              subst behind
              split
              · next close =>
                  subst close
                  exact .ok ⟨_, by simp only [List.cons_append, List.append_assoc, List.nil_append],
                    .emptyObject blank⟩
              · apply (within.fields [] (d :: after)).bind (.object blank)
                rintro fields w rest same isFields
                rw [same]
                exact .ok ⟨_, by simp only [List.cons_append, List.append_assoc, List.nil_append],
                  .object blank isFields⟩
      split
      · next bracket =>
          subst bracket
          split
          · exact .malformed _ _
          · next d after start =>
              rw [start] at behind
              subst behind
              split
              · next close =>
                  subst close
                  exact .ok ⟨_, by simp only [List.cons_append, List.append_assoc, List.nil_append],
                    .emptyList blank⟩
              · apply (within.items (d :: after)).bind (.list blank)
                rintro items w rest same isItems
                rw [same]
                exact .ok ⟨_, by simp only [List.cons_append, List.append_assoc, List.nil_append],
                  .list blank isItems⟩
      split
      · next found =>
          obtain ⟨name, known, split⟩ := constant?_eq_some found
          exact .ok ⟨name, split, .constant known⟩
      split
      · next found =>
          apply (number?_takes positive found).imp
          · rintro read ⟨w, split, isNumber⟩
            exact ⟨w, split, .number isNumber⟩
          · intro e long tooLong
            exact .here (long tooLong)
      · exact .malformed _ _

theorem items_succ (within : TakesWithin limit fuel) (t : Text) :
    Takes IsItems (LongAmongItems limit) [CodePoint.ofChar ']'] t
      (readItems (some limit) (fuel + 1) t) := by
  simp only [readItems]
  apply (within.value t).bind .here
  rintro item w rest rfl isValue
  rw [List.nil_append]
  dsimp only
  split
  · exact .malformed _ _
  · next d after start =>
      split
      · next close =>
          subst close
          obtain ⟨gap, behind, blank⟩ := eq_blank_append_skip rest
          rw [start] at behind
          exact .ok ⟨w ++ gap, by rw [behind, List.append_assoc]; rfl, .last isValue blank⟩
      split
      · next comma =>
          subst comma
          obtain ⟨comma, rfl, isComma⟩ := isComma_of_skip start
          apply (within.items (skip after)).bind (.later isValue isComma)
          rintro items w' rest' same isItems
          rw [same]
          exact .ok ⟨_, by simp only [List.append_assoc], .more isValue isComma isItems⟩
      · exact .malformed _ _

theorem fields_succ (within : TakesWithin limit fuel) (acc : Fields) (t : Text) :
    Takes IsFields (LongAmongFields limit) [CodePoint.ofChar '\x7d'] t
      (readFields (some limit) (fuel + 1) acc t) := by
  cases t with
  | nil => exact .malformed _ _
  | cons c tail =>
      simp only [readFields]
      split
      case isFalse => exact .malformed _ _
      next quote =>
      subst quote
      apply (readBody_takes _ tail).bind False.elim
      rintro body w rest rfl isBody
      rw [List.singleton_append]
      dsimp only
      split
      · exact .malformed _ _
      next d after start =>
      split
      case isFalse => exact .malformed _ _
      next colon =>
      subst colon
      obtain ⟨name, split, isName⟩ := isName_of_skip isBody start
      rw [split]
      apply (within.value (skip after)).bind (.here isName)
      rintro value w' rest' same isValue
      rw [same, List.nil_append]
      dsimp only
      split
      · exact .malformed _ _
      next e last start =>
      split
      · next close =>
          subst close
          obtain ⟨gap, behind, blank⟩ := eq_blank_append_skip rest'
          rw [start] at behind
          exact .ok ⟨_, by rw [behind]; simp only [List.append_assoc, List.singleton_append],
            .last isName isValue blank⟩
      split
      · next comma =>
          subst comma
          obtain ⟨comma, rfl, isComma⟩ := isComma_of_skip start
          apply (within.fields _ (skip last)).imp
          · rintro read ⟨w, split, isFields⟩
            rw [split]
            exact ⟨_, by simp only [List.append_assoc], .more isName isValue isComma isFields⟩
          · intro e long tooLong
            exact .later isName isValue isComma (long tooLong)
      · exact .malformed _ _

end TakesWithin

theorem takesWithin {limit : Nat} (positive : 0 < limit) (fuel : Nat) : TakesWithin limit fuel := by
  induction fuel with
  | zero => exact ⟨fun _ => .malformed _ _, fun _ => .malformed _ _, fun _ _ => .malformed _ _⟩
  | succ fuel ih => exact ⟨ih.value_succ positive, ih.items_succ, ih.fields_succ⟩

/-- What is read as a document is one, and where reading stops at an integer there is one too long. -/
theorem readDocument_settles {limit : Nat} (positive : 0 < limit) (t : Text) :
    Settles (fun e => e = .numeralTooLong → Overlong limit t) (fun _ => IsDocument t)
      (readDocument (some limit) t) := by
  obtain ⟨gap, split, blank⟩ := eq_blank_append_skip t
  unfold readDocument
  split
  · exact .error nofun
  · have takes := (takesWithin positive (2 * t.length + 1)).value (skip t)
    have overlong (long : LongIn limit (skip t)) : Overlong limit t := by
      rw [split]
      exact .document blank long
    apply Settles.bind (takes.weaken fun _ found tooLong => overlong (found tooLong))
    rintro ⟨v, rest⟩ ⟨w, taken, isValue⟩
    dsimp only
    split
    · next ended =>
        have document := IsDocument.whole blank isValue (blank_of_skip ended)
        rw [split, taken]
        exact .ok document
    · exact .error nofun

end UnitRouting.Json
