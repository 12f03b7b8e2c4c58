import UnitRouting.Proofs.Json.Leaf
import UnitRouting.Proofs.Outcome

/-! # Written documents are read back

A value without floating point numbers, whose integers are within the digit limit and whose objects
name no field twice, is read back from its written form, in every style that leaves code points as
they are. The induction is on the value; each list and each object takes the induction hypothesis in
front of the separator or bracket that follows. -/

namespace UnitRouting

namespace Value

mutual

/-- The value has a written form that holds all of it. -/
def Plain : Value → Prop
  | .undefined | .float _ => False
  | .null | .bool _ | .text _ => True
  | .int n => n.natAbs < numeralBound
  | .list items => PlainItems items
  | .object fields => PlainFields fields ∧ (fields.map (·.1)).Nodup

def PlainItems : List Value → Prop
  | [] => True
  | item :: rest => item.Plain ∧ PlainItems rest

def PlainFields : List (Text × Value) → Prop
  | [] => True
  | (_, value) :: rest => value.Plain ∧ PlainFields rest

end

theorem plainItems_iff {items : List Value} : PlainItems items ↔ ∀ item ∈ items, item.Plain := by
  induction items with
  | nil => simp only [PlainItems, List.not_mem_nil, false_implies, implies_true]
  | cons item rest ih => simp only [PlainItems, ih, List.forall_mem_cons]

mutual

/-- As many steps down as reading the written form takes at most. -/
def steps : Value → Nat
  | .list items => 1 + itemSteps items
  | .object fields => 1 + fieldSteps fields
  | _ => 1

def itemSteps : List Value → Nat
  | [] => 0
  | item :: rest => 1 + item.steps + itemSteps rest

def fieldSteps : List (Text × Value) → Nat
  | [] => 0
  | (_, value) :: rest => 1 + value.steps + fieldSteps rest

end

end Value

namespace Json

/-- Nothing but white space. -/
def Blank (gap : Text) : Prop := ∀ c ∈ gap, isSpace c = true

/-- The text begins with something else than white space. -/
def Visible (t : Text) : Prop := ∃ c tail, t = c :: tail ∧ isSpace c = false

theorem Visible.append {t : Text} (visible : Visible t) (rest : Text) : Visible (t ++ rest) := by
  obtain ⟨c, tail, rfl, seen⟩ := visible
  exact ⟨c, tail ++ rest, rfl, seen⟩

theorem skip_blank_append {gap t : Text} (blank : Blank gap) (visible : Visible t) :
    skip (gap ++ t) = t := by
  obtain ⟨c, tail, rfl, seen⟩ := visible
  simp only [skip, List.dropWhile_append_of_pos blank, List.dropWhile_cons, seen,
    Bool.false_eq_true, if_false]

theorem skip_visible {t : Text} (visible : Visible t) : skip t = t :=
  skip_blank_append (show Blank [] from fun _ member => absurd member List.not_mem_nil) visible

theorem blank_newLine (style : Style) (level : Nat) : Blank (style.newLine level) := by
  intro c member
  rcases List.mem_cons.mp member with rfl | space
  · rfl
  · rw [List.eq_of_mem_replicate space]
    rfl

theorem separator_eq (style : Style) (level : Nat) :
    ∃ gap, style.separator level = CodePoint.ofChar ',' :: gap ∧ Blank gap :=
  ⟨_, rfl, blank_newLine style level⟩

theorem EndsNumber.append_blank {gap t : Text} (blank : Blank gap) (ends : EndsNumber t) :
    EndsNumber (gap ++ t) := by
  cases gap with
  | nil => exact ends
  | cons d gap =>
      rintro c rest ⟨rfl, rfl⟩
      have space := blank d List.mem_cons_self
      simp only [isSpace, Bool.or_eq_true, beq_iff_eq] at space
      refine ⟨?_, ?_, ?_, ?_⟩
      · rw [← Bool.not_eq_true, CodePoint.isDigit_iff]
        omega
      all_goals
        rintro rfl
        revert space
        decide

/-- What closes a list or an object on a line of its own. -/
def closing (style : Style) (level : Nat) (bracket : Char) (rest : Text) : Text :=
  style.newLine level ++ CodePoint.ofChar bracket :: rest

theorem skip_closing (style : Style) (level : Nat) {bracket : Char}
    (seen : isSpace (CodePoint.ofChar bracket) = false) (rest : Text) :
    skip (closing style level bracket rest) = CodePoint.ofChar bracket :: rest :=
  skip_blank_append (blank_newLine style level) ⟨_, _, rfl, seen⟩

theorem EndsNumber.cons {c : CodePoint} (ends : c.isDigit = false ∧ c ≠ CodePoint.ofChar '.' ∧
    c ≠ CodePoint.ofChar 'e' ∧ c ≠ CodePoint.ofChar 'E') (rest : Text) : EndsNumber (c :: rest) := by
  rintro d tail ⟨rfl, rfl⟩
  exact ends

theorem endsNumber_closing_list (style : Style) (level : Nat) (rest : Text) :
    EndsNumber (closing style level ']' rest) :=
  .append_blank (blank_newLine style level) (.cons (by decide) rest)

theorem endsNumber_closing_object (style : Style) (level : Nat) (rest : Text) :
    EndsNumber (closing style level '\x7d' rest) :=
  .append_blank (blank_newLine style level) (.cons (by decide) rest)

theorem endsNumber_comma (rest : Text) : EndsNumber (CodePoint.ofChar ',' :: rest) :=
  .cons (by decide) rest

theorem join_cons_cons (separator piece next : Text) (pieces : List Text) :
    Text.join separator (piece :: next :: pieces) =
      piece ++ (separator ++ Text.join separator (next :: pieces)) := by
  simp only [Text.join, List.append_assoc]

theorem join_cons (separator piece : Text) (pieces : List Text) :
    ∃ tail, Text.join separator (piece :: pieces) = piece ++ tail := by
  cases pieces with
  | nil => exact ⟨[], (List.append_nil piece).symm⟩
  | cons next pieces => exact ⟨_, join_cons_cons separator piece next pieces⟩

/-- A written value begins visibly, with neither the end of a list nor a byte order mark. -/
theorem writeAt_cons (style : Style) (level : Nat) {v : Value} (plain : v.Plain) :
    ∃ c tail, style.writeAt level v = c :: tail ∧ isSpace c = false ∧
      c ≠ CodePoint.ofChar ']' ∧ c ≠ CodePoint.ofChar '\uFEFF' := by
  cases v with
  | undefined | float => cases plain
  | null => exact ⟨_, _, rfl, by decide⟩
  | bool b => cases b <;> exact ⟨_, _, rfl, by decide⟩
  | int n =>
      cases n with
      | ofNat n =>
          obtain ⟨c, tail, written, digit⟩ := Text.ofNat_cons n
          refine ⟨c, tail, by rw [Style.writeAt, Text.ofInt, written], ?_,
            ne_of_isDigit digit (by decide), ne_of_isDigit digit (by decide)⟩
          have range := CodePoint.isDigit_iff.mp digit
          simp only [isSpace, Bool.or_eq_false_iff, beq_eq_false_iff_ne]
          omega
      | negSucc n => exact ⟨_, _, by rw [Style.writeAt, Text.ofInt], by decide⟩
  | text t => exact ⟨_, _, by rw [Style.writeAt, writeText]; rfl, by decide⟩
  | list items => cases items <;> exact ⟨_, _, by rw [Style.writeAt]; rfl, by decide⟩
  | object fields => cases fields <;> exact ⟨_, _, by rw [Style.writeAt]; rfl, by decide⟩

theorem joinItems_cons (style : Style) (level : Nat) {item : Value} (plain : item.Plain)
    (items : List Value) :
    ∃ c tail, Text.join (style.separator level) (style.writeItems level (item :: items)) = c :: tail ∧
      isSpace c = false ∧ c ≠ CodePoint.ofChar ']' := by
  obtain ⟨more, joined⟩ := join_cons (style.separator level) (style.writeAt level item)
    (style.writeItems level items)
  obtain ⟨c, tail, written, seen, notClose, -⟩ := writeAt_cons style level plain
  exact ⟨c, tail ++ more, by rw [Style.writeItems, joined, written, List.cons_append], seen, notClose⟩

theorem joinFields_cons (style : Style) (level : Nat) (field : Text × Value) (fields : Fields) :
    ∃ tail, Text.join (style.separator level) (style.writeFields level (field :: fields)) =
      CodePoint.ofChar '"' :: tail := by
  obtain ⟨name, v⟩ := field
  obtain ⟨more, joined⟩ := join_cons (style.separator level)
    (writeText style.ascii name ++ Text.ofString ": " ++ style.writeAt level v)
    (style.writeFields level fields)
  exact ⟨_, by rw [Style.writeFields, joined, writeText]; rfl⟩

theorem writeAt_list_append (style : Style) (level : Nat) (item : Value) (items : List Value)
    (rest : Text) : style.writeAt level (.list (item :: items)) ++ rest =
      CodePoint.ofChar '[' :: (style.newLine (level + 1) ++
        (Text.join (style.separator (level + 1)) (style.writeItems (level + 1) (item :: items)) ++
          closing style level ']' rest)) := by
  simp only [Style.writeAt, closing, List.append_assoc]
  rfl

theorem writeAt_object_append (style : Style) (level : Nat) (field : Text × Value)
    (fields : Fields) (rest : Text) : style.writeAt level (.object (field :: fields)) ++ rest =
      CodePoint.ofChar '\x7b' :: (style.newLine (level + 1) ++
        (Text.join (style.separator (level + 1)) (style.writeFields (level + 1) (field :: fields)) ++
          closing style level '\x7d' rest)) := by
  simp only [Style.writeAt, closing, List.append_assoc]
  rfl

theorem writeText_append (t rest : Text) : writeText false t ++ rest =
    CodePoint.ofChar '"' :: (t.flatMap (escape false) ++ CodePoint.ofChar '"' :: rest) := by
  simp only [writeText, List.append_assoc]
  rfl

section Steps

variable {limit : Option Nat} {fuel : Nat}

theorem readValue_text (t rest : Text) :
    readValue limit (fuel + 1) (writeText false t ++ rest) = .ok (.text t, rest) := by
  rw [writeText_append, readValue]
  simp only [if_true, readBody_written, Outcome.bind_ok]
  rfl

theorem readValue_list {t rest : Text} {items : List Value}
    (begins : ∃ c tail, skip t = c :: tail ∧ c ≠ CodePoint.ofChar ']')
    (read : readItems limit fuel (skip t) = .ok (items, rest)) :
    readValue limit (fuel + 1) (CodePoint.ofChar '[' :: t) = .ok (.list items, rest) := by
  obtain ⟨c, tail, start, notClose⟩ := begins
  rw [start] at read
  rw [readValue]
  simp only [if_neg (show CodePoint.ofChar '[' ≠ CodePoint.ofChar '"' by decide),
    if_neg (show CodePoint.ofChar '[' ≠ CodePoint.ofChar '\x7b' by decide), if_true, start,
    notClose, if_false, read, Outcome.bind_ok]
  rfl

theorem readValue_object {t rest : Text} {fields : Fields}
    (begins : ∃ c tail, skip t = c :: tail ∧ c ≠ CodePoint.ofChar '\x7d')
    (read : readFields limit fuel [] (skip t) = .ok (fields, rest)) :
    readValue limit (fuel + 1) (CodePoint.ofChar '\x7b' :: t) = .ok (.object fields, rest) := by
  obtain ⟨c, tail, start, notClose⟩ := begins
  rw [start] at read
  rw [readValue]
  simp only [if_neg (show CodePoint.ofChar '\x7b' ≠ CodePoint.ofChar '"' by decide), if_true,
    start, notClose, if_false, read, Outcome.bind_ok]
  rfl

theorem readItems_last {t after rest : Text} {v : Value}
    (here : readValue limit fuel t = .ok (v, after))
    (close : skip after = CodePoint.ofChar ']' :: rest) :
    readItems limit (fuel + 1) t = .ok ([v], rest) := by
  rw [readItems, here]
  simp only [Outcome.bind_ok, close, if_true]

theorem readItems_more {t after next rest : Text} {v : Value} {items : List Value}
    (here : readValue limit fuel t = .ok (v, after))
    (comma : skip after = CodePoint.ofChar ',' :: next)
    (more : readItems limit fuel (skip next) = .ok (items, rest)) :
    readItems limit (fuel + 1) t = .ok (v :: items, rest) := by
  rw [readItems, here]
  simp only [Outcome.bind_ok, comma,
    if_neg (show CodePoint.ofChar ',' ≠ CodePoint.ofChar ']' by decide), if_true, more]
  rfl

theorem readFields_entry (acc : Fields) (name : Text) {t after : Text} {v : Value} {d : CodePoint}
    {last : Text} (visible : Visible t) (here : readValue limit fuel t = .ok (v, after))
    (behind : skip after = d :: last) :
    readFields limit (fuel + 1) acc (writeText false name ++ (Text.ofString ": " ++ t)) =
      if d = CodePoint.ofChar '\x7d' then .ok (acc.set name v, last)
      else if d = CodePoint.ofChar ',' then readFields limit fuel (acc.set name v) (skip last)
      else .error (.malformed .expectingComma (d :: last)) := by
  have colon : skip (Text.ofString ": " ++ t) =
      CodePoint.ofChar ':' :: ([CodePoint.ofChar ' '] ++ t) := rfl
  have gap : Blank [CodePoint.ofChar ' '] := by
    intro c member
    rw [List.mem_singleton.mp member]
    rfl
  rw [writeText_append, readFields]
  simp only [if_true, readBody_written, Outcome.bind_ok, colon, skip_blank_append gap visible, here,
    behind]

end Steps

theorem set_of_not_mem {fields : Fields} {name : Text} (fresh : name ∉ fields.map (·.1)) (v : Value) :
    fields.set name v = fields ++ [(name, v)] := by
  induction fields with
  | nil => rfl
  | cons field rest ih =>
      simp only [List.map_cons, List.mem_cons, not_or] at fresh
      simp only [Fields.set, Ne.symm fresh.1, if_false, List.cons_append, ih fresh.2]

variable {style : Style}

mutual

theorem readValue_written (raw : style.ascii = false) (level : Nat) (v : Value) (plain : v.Plain)
    (fuel : Nat) (enough : v.steps ≤ fuel) {rest : Text} (ends : EndsNumber rest) :
    readValue (some numeralLimit) fuel (style.writeAt level v ++ rest) = .ok (v, rest) := by
  obtain ⟨fuel, rfl⟩ : ∃ n, fuel = n + 1 := by
    cases v <;> simp only [Value.steps] at enough <;> exact ⟨fuel - 1, by omega⟩
  cases v with
  | undefined | float => cases plain
  | null => rfl
  | bool b => cases b <;> rfl
  | int n => exact readValue_ofInt plain ends fuel
  | text t =>
      rw [Style.writeAt, raw]
      exact readValue_text t rest
  | list items =>
      cases items with
      | nil => rfl
      | cons item items =>
          obtain ⟨c, tail, begins, seen, notClose⟩ :=
            joinItems_cons style (level + 1) plain.1 items
          have start := skip_blank_append (blank_newLine style (level + 1))
            (Visible.append ⟨c, tail, begins, seen⟩ (closing style level ']' rest))
          have read := readItems_written raw (level + 1) item items plain fuel
            (by simp only [Value.steps] at enough; omega)
            (endsNumber_closing_list style level rest) (skip_closing style level rfl rest)
          rw [writeAt_list_append]
          refine readValue_list ⟨c, tail ++ closing style level ']' rest, ?_, notClose⟩
            (by rw [start]; exact read)
          rw [start, begins, List.cons_append]
  | object fields =>
      cases fields with
      | nil => rfl
      | cons field fields =>
          cases field with | mk name v =>
          obtain ⟨tail, begins⟩ := joinFields_cons style (level + 1) (name, v) fields
          have start := skip_blank_append (blank_newLine style (level + 1))
            (Visible.append ⟨_, tail, begins, rfl⟩ (closing style level '\x7d' rest))
          have read := readFields_written raw (level + 1) [] name v fields plain.1 plain.2
            fuel (by simp only [Value.steps] at enough; omega)
            (endsNumber_closing_object style level rest) (skip_closing style level rfl rest)
          rw [writeAt_object_append]
          refine readValue_object ⟨CodePoint.ofChar '"', tail ++ closing style level '\x7d' rest,
            ?_, by decide⟩ (by rw [start]; exact read)
          rw [start, begins, List.cons_append]
termination_by sizeOf v

theorem readItems_written (raw : style.ascii = false) (level : Nat) (item : Value)
    (items : List Value) (plain : Value.PlainItems (item :: items)) (fuel : Nat)
    (enough : Value.itemSteps (item :: items) ≤ fuel) {after rest : Text} (ends : EndsNumber after)
    (close : skip after = CodePoint.ofChar ']' :: rest) :
    readItems (some numeralLimit) fuel
      (Text.join (style.separator level) (style.writeItems level (item :: items)) ++ after) =
        .ok (item :: items, rest) := by
  obtain ⟨fuel, rfl⟩ : ∃ n, fuel = n + 1 := by
    simp only [Value.itemSteps] at enough
    exact ⟨fuel - 1, by omega⟩
  rw [Value.itemSteps] at enough
  cases items with
  | nil => exact readItems_last (readValue_written raw level item plain.1 fuel (by omega) ends) close
  | cons next items =>
      obtain ⟨gap, separator, blank⟩ := separator_eq style level
      obtain ⟨c, tail, begins, seen, -⟩ := joinItems_cons style level plain.2.1 items
      have more := readItems_written raw level next items plain.2 fuel (by omega) ends close
      have here := readValue_written raw level item plain.1 fuel (by omega)
        (endsNumber_comma (gap ++ (Text.join (style.separator level)
          (style.writeItems level (next :: items)) ++ after)))
      have text : Text.join (style.separator level) (style.writeItems level (item :: next :: items)) ++
          after = style.writeAt level item ++ CodePoint.ofChar ',' :: (gap ++
            (Text.join (style.separator level) (style.writeItems level (next :: items)) ++ after)) := by
        simp only [Style.writeItems, join_cons_cons]
        simp only [separator, List.append_assoc, List.cons_append]
      rw [text]
      refine readItems_more here rfl ?_
      rw [skip_blank_append blank (Visible.append ⟨c, tail, begins, seen⟩ after)]
      exact more
termination_by sizeOf (item :: items)

theorem readFields_written (raw : style.ascii = false) (level : Nat) (acc : Fields) (name : Text)
    (v : Value) (fields : Fields) (plain : Value.PlainFields ((name, v) :: fields))
    (distinct : ((acc ++ (name, v) :: fields).map (·.1)).Nodup) (fuel : Nat)
    (enough : Value.fieldSteps ((name, v) :: fields) ≤ fuel) {after rest : Text}
    (ends : EndsNumber after) (close : skip after = CodePoint.ofChar '\x7d' :: rest) :
    readFields (some numeralLimit) fuel acc
      (Text.join (style.separator level) (style.writeFields level ((name, v) :: fields)) ++ after) =
        .ok (acc ++ (name, v) :: fields, rest) := by
  obtain ⟨fuel, rfl⟩ : ∃ n, fuel = n + 1 := by
    simp only [Value.fieldSteps] at enough
    exact ⟨fuel - 1, by omega⟩
  rw [Value.fieldSteps] at enough
  have fresh : name ∉ acc.map (·.1) := by
    simp only [List.map_append, List.map_cons, List.nodup_append] at distinct
    exact fun member => distinct.2.2 name member name List.mem_cons_self rfl
  obtain ⟨c, tail, begins, seen, -⟩ := writeAt_cons style level plain.1
  cases fields with
  | nil =>
      have here := readValue_written raw level v plain.1 fuel (by omega) ends
      have entry := readFields_entry acc name
        (Visible.append ⟨c, tail, begins, seen⟩ after) here close
      simp only [Style.writeFields, Text.join, raw, List.append_assoc]
      rw [entry, if_pos rfl, set_of_not_mem fresh]
  | cons next fields =>
      obtain ⟨gap, separator, blank⟩ := separator_eq style level
      cases next with | mk nextName nextValue =>
      obtain ⟨tailNext, beginsNext⟩ := joinFields_cons style level (nextName, nextValue) fields
      have more := readFields_written raw level (acc ++ [(name, v)]) nextName nextValue fields plain.2
        (by simpa only [List.append_assoc, List.singleton_append] using distinct) fuel
        (by omega) ends close
      have here := readValue_written raw level v plain.1 fuel (by omega)
        (endsNumber_comma (gap ++ (Text.join (style.separator level)
          (style.writeFields level ((nextName, nextValue) :: fields)) ++ after)))
      have entry := readFields_entry acc name
        (Visible.append ⟨c, tail, begins, seen⟩ _) here (d := CodePoint.ofChar ',') rfl
      have text : Text.join (style.separator level)
          (style.writeFields level ((name, v) :: (nextName, nextValue) :: fields)) ++ after =
            writeText false name ++ (Text.ofString ": " ++ (style.writeAt level v ++
              CodePoint.ofChar ',' :: (gap ++ (Text.join (style.separator level)
                (style.writeFields level ((nextName, nextValue) :: fields)) ++ after)))) := by
        simp only [Style.writeFields, join_cons_cons, raw]
        simp only [separator, List.append_assoc, List.cons_append]
      rw [text, entry, if_neg (by decide), if_pos rfl, set_of_not_mem fresh,
        skip_blank_append blank (Visible.append ⟨_, tailNext, beginsNext, rfl⟩ after), more,
        List.append_assoc, List.singleton_append]
termination_by sizeOf ((name, v) :: fields)

end

theorem le_length_join (separator piece : Text) (pieces : List Text) :
    piece.length + (Text.join separator pieces).length ≤
      (Text.join separator (piece :: pieces)).length := by
  cases pieces with
  | nil => simp only [Text.join, List.length_nil, Nat.add_zero, Nat.le_refl]
  | cons next pieces =>
      rw [join_cons_cons]
      simp only [List.length_append]
      omega

theorem length_pos_writeAt (style : Style) (level : Nat) {v : Value} (plain : v.Plain) :
    1 ≤ (style.writeAt level v).length := by
  obtain ⟨c, tail, written, -⟩ := writeAt_cons style level plain
  rw [written]
  exact Nat.succ_le_succ (Nat.zero_le _)

mutual

theorem steps_le_length (level : Nat) (v : Value) (plain : v.Plain) :
    v.steps + 1 ≤ 2 * (style.writeAt level v).length := by
  cases v with
  | undefined | float => cases plain
  | null | bool | int | text =>
      have := length_pos_writeAt style level plain
      simp only [Value.steps]
      omega
  | list items =>
      cases items with
      | nil => simp only [Value.steps, Value.itemSteps, Style.writeAt]; decide
      | cons item items =>
          have inner := itemSteps_le_length (level + 1) (item :: items) plain
          have outer := writeAt_list_append style level item items []
          have size := congrArg List.length outer
          simp only [List.length_append, List.length_cons, List.length_nil, closing] at size
          simp only [Value.steps]
          omega
  | object fields =>
      cases fields with
      | nil => simp only [Value.steps, Value.fieldSteps, Style.writeAt]; decide
      | cons field fields =>
          have inner := fieldSteps_le_length (level + 1) (field :: fields) plain.1
          have outer := writeAt_object_append style level field fields []
          have size := congrArg List.length outer
          simp only [List.length_append, List.length_cons, List.length_nil, closing] at size
          simp only [Value.steps]
          omega
termination_by sizeOf v

theorem itemSteps_le_length (level : Nat) (items : List Value) (plain : Value.PlainItems items) :
    Value.itemSteps items ≤
      2 * (Text.join (style.separator level) (style.writeItems level items)).length := by
  cases items with
  | nil => exact Nat.zero_le _
  | cons item items =>
      have here := steps_le_length level item plain.1
      have there := itemSteps_le_length level items plain.2
      have joined := le_length_join (style.separator level) (style.writeAt level item)
        (style.writeItems level items)
      simp only [Value.itemSteps, Style.writeItems]
      omega
termination_by sizeOf items

theorem fieldSteps_le_length (level : Nat) (fields : Fields) (plain : Value.PlainFields fields) :
    Value.fieldSteps fields ≤
      2 * (Text.join (style.separator level) (style.writeFields level fields)).length := by
  cases fields with
  | nil => exact Nat.zero_le _
  | cons field fields =>
      cases field with | mk name v =>
      have here := steps_le_length level v plain.1
      have there := fieldSteps_le_length level fields plain.2
      have joined := le_length_join (style.separator level)
        (writeText style.ascii name ++ Text.ofString ": " ++ style.writeAt level v)
        (style.writeFields level fields)
      simp only [List.length_append] at joined
      simp only [Value.fieldSteps, Style.writeFields]
      omega
termination_by sizeOf fields

end

/-- A written value is one whole document, which holds the value. -/
theorem read_written {style : Style} (raw : style.ascii = false) {v : Value} (plain : v.Plain) :
    read (style.write v) = .ok v := by
  obtain ⟨c, tail, written, seen, -, notMark⟩ := writeAt_cons style 0 plain
  have visible : Visible (style.write v) := ⟨c, tail, written, seen⟩
  have enough : v.steps ≤ 2 * (style.write v).length + 1 := by
    have steps : v.steps + 1 ≤ 2 * (style.writeAt 0 v).length := steps_le_length 0 v plain
    unfold Style.write
    omega
  have value : readValue (some numeralLimit) (2 * (style.write v).length + 1) (style.write v) =
      .ok (v, []) := by
    have whole := readValue_written raw 0 v plain _ enough EndsNumber.nil
    rw [List.append_nil] at whole
    exact whole
  have noMark : (Text.ofString "\uFEFF").isPrefixOf (style.write v) = false := by
    have mark : Text.ofString "\uFEFF" = [CodePoint.ofChar '\uFEFF'] := rfl
    rw [Style.write, written, mark, List.isPrefixOf_cons_cons, beq_false_of_ne (Ne.symm notMark),
      Bool.false_and]
  have document : readDocument (some numeralLimit) (style.write v) = .ok v := by
    rw [readDocument, noMark, skip_visible visible]
    simp only [Bool.false_eq_true, if_false, value]
    rfl
  rw [read, document]

end Json

end UnitRouting
