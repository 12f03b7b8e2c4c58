import UnitRouting.Proofs.Rule.Negation

/-! # Sets and alternatives

Where a field has a text, a set condition says of it what the equalities with the members say together:
the field is in the set if any of them holds, and it is not if all of the inequalities hold. So a rule
with a set can be written as a rule with one condition for each member, and the other way round. -/

namespace UnitRouting

open Outcome

namespace Text

/-- Stripped members without commas are read back from the text that has nothing but commas between
    them, if there are any members and they are not one empty member alone. -/
theorem members_join_comma {items : List Text} (some : items ≠ [])
    (typed : ∀ m ∈ items, CodePoint.ofChar ',' ∉ m ∧ m.strip = m) (visible : items ≠ [[]]) :
    (join "," items).members = items := by
  obtain ⟨m, rest, rfl⟩ := List.exists_cons_of_ne_nil some
  have comma : Text.ofString "," = [CodePoint.ofChar ','] := rfl
  have filled : (join "," (m :: rest)).isEmpty = false := by
    cases rest with
    | nil => simpa [join] using visible
    | cons next rest => simp [join, comma]
  have pieces : (join "," (m :: rest)).splitOn ',' = m :: rest :=
    splitOn_join_of_free fun piece member => (typed piece member).1
  have stripped : (m :: rest).map strip = m :: rest :=
    (List.map_congr_left fun piece member => (typed piece member).2).trans (List.map_id' _)
  simp only [members, filled, Bool.false_eq_true, if_false, pieces, stripped]

end Text

namespace Condition

variable {field t : Text} {context : Fields}

/-- Conditions that compare a field with one text each. -/
def createEach (field : Text) (operator : Operator) (texts : List Text) :
    Except Fault (List Condition) :=
  texts.mapM fun typed => create (.text field) (.text operator.name) (.text typed)

theorem createEach_eq_ok (field : Text) (operator : Operator) (texts : List Text) :
    createEach field operator texts = .ok (texts.map (ofTyped field operator.name)) := by
  unfold createEach
  rw [mapM_eq_ok, List.forall₂_map_right_iff, List.forall₂_same]
  intro typed _
  exact create_operator field typed operator.strip_name

theorem evaluate_of_text (named : field.strip ≠ []) (found : context.resolve field = .text t)
    (typed : Text) :
    (ofTyped field Operator.equals.name typed).evaluate context = .ok (t == typed) ∧
    (ofTyped field Operator.notEquals.name typed).evaluate context = .ok (t != typed) ∧
    (ofTyped field Operator.isIn.name typed).evaluate context = .ok (typed.members.contains t) ∧
    (ofTyped field Operator.notIn.name typed).evaluate context = .ok (!typed.members.contains t) := by
  simp only [evaluate_ofTyped named, found]
  exact ⟨rfl, rfl, rfl, rfl⟩

end Condition

namespace Rule

variable {field : Text} {operator : Operator} {context : Fields}

theorem isMatch_ofTyped (named : field.strip ≠ []) {texts : List Text} (some : texts ≠ [])
    {said : Text → Bool}
    (each : ∀ typed ∈ texts,
      (Condition.ofTyped field operator.name typed).evaluate context = .ok (said typed))
    (r : Rule) :
    { r with conditions := texts.map (Condition.ofTyped field operator.name) }.isMatch context =
      .ok (r.combinator.combine (texts.map said)) := by
  let s : Rule := { r with conditions := texts.map (Condition.ofTyped field operator.name) }
  have valid : s.validConditions = s.conditions := by
    apply List.filter_eq_self.mpr
    intro c member
    obtain ⟨typed, -, rfl⟩ := List.mem_map.mp member
    simpa [Condition.isValid_ofTyped] using named
  have filled : s.validConditions ≠ [] := by simpa [valid, s] using some
  have results : resultsOf s.validConditions context = .ok (texts.map said) := by
    rw [valid, resultsOf, mapM_eq_ok, List.forall₂_map_left_iff, List.forall₂_map_right_iff,
      List.forall₂_same]
    exact each
  calc s.isMatch context
      = (resultsOf s.validConditions context).map s.combinator.combine := isMatch_of_valid filled context
    _ = .ok (r.combinator.combine (texts.map said)) := by rw [results]; rfl

theorem isMatch_ofTyped_single (named : field.strip ≠ []) {typed : Text} {b : Bool}
    (said : (Condition.ofTyped field operator.name typed).evaluate context = .ok b) (r : Rule) :
    { r with conditions := [Condition.ofTyped field operator.name typed] }.isMatch context = .ok b := by
  have each : ∀ other ∈ [typed],
      (Condition.ofTyped field operator.name other).evaluate context = .ok b :=
    List.forall_mem_singleton.mpr said
  calc { r with conditions := [Condition.ofTyped field operator.name typed] }.isMatch context
      = .ok (r.combinator.combine [b]) := isMatch_ofTyped named (List.cons_ne_nil typed []) each r
    _ = .ok b := by rw [Combinator.combine_singleton]

end Rule

/-- Any of the equalities with some texts holds of the texts that are among them. -/
theorem Combinator.combine_any_eq (t : Text) (texts : List Text) :
    any.combine (texts.map (t == ·)) = decide (t ∈ texts) := by
  rw [Bool.eq_iff_iff]
  simp [combine]

theorem Combinator.combine_all_ne (t : Text) (texts : List Text) :
    all.combine (texts.map (t != ·)) = decide (t ∉ texts) := by
  rw [Bool.eq_iff_iff]
  simp [combine, List.forall_mem_ne]

/-- A rule with one condition that is on a set matches exactly the same texts of its field as one that
    has an equality for each member, any of which is enough: the texts that are members. A rule with one
    condition that excludes a set matches the same as one with an inequality for each member, all of
    which have to hold: all other texts. The set is typed with commas between its members, which are
    stripped and have no commas in them; one empty member alone cannot be typed. -/
theorem set_rule_matches_like_alternatives {members : List Text} (some : members ≠ [])
    (typed : ∀ m ∈ members, CodePoint.ofChar ',' ∉ m ∧ m.strip = m) (visible : members ≠ [[]])
    {field t : Text} (named : field.strip ≠ []) {context : Fields}
    (found : context.resolve field = .text t) (r : Rule) :
    ∃ isIn notIn equalities inequalities,
      Condition.createEach field .isIn [Text.join "," members] = .ok [isIn] ∧
      Condition.createEach field .notIn [Text.join "," members] = .ok [notIn] ∧
      Condition.createEach field .equals members = .ok equalities ∧
      Condition.createEach field .notEquals members = .ok inequalities ∧
      { r with conditions := [isIn] }.isMatch context = .ok (decide (t ∈ members)) ∧
      { r with conditions := equalities, combinator := .any }.isMatch context =
        .ok (decide (t ∈ members)) ∧
      { r with conditions := [notIn] }.isMatch context = .ok (decide (t ∉ members)) ∧
      { r with conditions := inequalities, combinator := .all }.isMatch context =
        .ok (decide (t ∉ members)) := by
  have read : (Text.join "," members).members = members := Text.members_join_comma some typed visible
  have listed : members.contains t = decide (t ∈ members) := List.contains_eq_mem t members
  obtain ⟨-, -, within, without⟩ := Condition.evaluate_of_text named found (Text.join "," members)
  rw [read, listed] at within without
  refine ⟨_, _, _, _, Condition.createEach_eq_ok _ _ _, Condition.createEach_eq_ok _ _ _,
    Condition.createEach_eq_ok _ _ _, Condition.createEach_eq_ok _ _ _, ?_, ?_, ?_, ?_⟩
  · exact Rule.isMatch_ofTyped_single named within r
  · rw [← Combinator.combine_any_eq]
    exact Rule.isMatch_ofTyped named some
      (fun m _ => (Condition.evaluate_of_text named found m).1) { r with combinator := .any }
  · rw [decide_not]
    exact Rule.isMatch_ofTyped_single named without r
  · rw [← Combinator.combine_all_ne]
    exact Rule.isMatch_ofTyped named some
      (fun m _ => (Condition.evaluate_of_text named found m).2.1) { r with combinator := .all }

/-- The empty text is one of three members, and the text of the field is found behind a dot. -/
theorem empty_member_matches_empty_text :
    let members : List Text := ["sales", [], "e-mail \u00A0 team"]
    let context : Fields := [("caller", .object [("queue", .text [])])]
    let r : Rule := ⟨"rule-1", "Rule 1", 100, "unit-1", [], .all⟩
    members ≠ [] ∧ (∀ m ∈ members, CodePoint.ofChar ',' ∉ m ∧ m.strip = m) ∧ members ≠ [[]] ∧
      Text.strip "caller.queue" ≠ [] ∧ context.resolve "caller.queue" = .text [] ∧
      ∃ isIn equalities,
        Condition.createEach "caller.queue" .isIn ["sales,,e-mail \u00A0 team"] = .ok [isIn] ∧
        Condition.createEach "caller.queue" .equals members = .ok equalities ∧
        { r with conditions := [isIn] }.isMatch context = .ok true ∧
        { r with conditions := equalities, combinator := .any }.isMatch context = .ok true := by
  intro members context r
  have some : members ≠ [] := by decide
  have typed : ∀ m ∈ members, CodePoint.ofChar ',' ∉ m ∧ m.strip = m := by decide
  have visible : members ≠ [[]] := by decide
  have named : Text.strip "caller.queue" ≠ [] := by decide
  have found : context.resolve "caller.queue" = .text [] := rfl
  obtain ⟨isIn, notIn, equalities, inequalities, set, -, each, -, within, any, -⟩ :=
    set_rule_matches_like_alternatives some typed visible named found r
  exact ⟨some, typed, visible, named, found, isIn, equalities, set, each, within, any⟩

end UnitRouting
