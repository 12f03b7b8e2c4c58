import UnitRouting.Proofs.Outcome
import UnitRouting.Proofs.Rule.Ranking

/-! # Which rule is selected

The rule that an evaluation selects, told without the order in which rules are looked at: it has a
unit, its conditions hold, and every other such rule has a lower priority or, with the same
priority, stands later in the authored list. -/

namespace UnitRouting

open Outcome

namespace Rule

/-- The rule has a unit and its conditions hold in a context. -/
def Qualifies (r : Rule) (context : Fields) : Prop :=
  r.unitId ≠ [] ∧ r.isMatch context = .ok true

theorem conditionResults_map_result (r : Rule) (context : Fields) :
    (r.conditionResults context).map (·.map (·.result)) =
      r.validConditions.mapM (·.evaluate context) := by
  unfold conditionResults
  induction r.validConditions with
  | nil => rfl
  | cons c rest ih =>
      simp only [List.mapM_cons, ← ih]
      generalize rest.mapM (·.resultIn context) = tail
      unfold Condition.resultIn
      cases c.evaluate context <;> cases tail <;> rfl

/-- Considering a rule in an evaluation and testing it by itself come to the same, apart from rules
    without a unit. -/
theorem consider_map_isMatch (r : Rule) (context : Fields) :
    (r.consider context).map Verdict.isMatch =
      if r.unitId.isEmpty then .ok false else r.isMatch context := by
  unfold consider isMatch
  by_cases draft : r.unitId.isEmpty
  · simp only [draft, if_true, Except.map, Verdict.isMatch]
  · by_cases bare : r.conditions.isEmpty
    · have none : r.validConditions = [] := by
        simp only [validConditions, List.isEmpty_iff.mp bare, List.filter_nil]
      simp [draft, bare, none, Except.map, Verdict.isMatch]
    · by_cases invalid : r.validConditions.isEmpty
      · simp [draft, bare, invalid, Except.map, Verdict.isMatch]
      · simp only [draft, bare, invalid, Bool.false_eq_true, if_false,
          ← conditionResults_map_result]
        cases r.conditionResults context <;> rfl

theorem isMatch_of_consider {r : Rule} {context : Fields} {verdict : Verdict}
    (considered : r.consider context = .ok verdict) :
    verdict.isMatch = true ↔ r.Qualifies context := by
  have same := r.consider_map_isMatch context
  rw [considered] at same
  by_cases draft : r.unitId.isEmpty
  · simp only [Except.map, draft, if_true, Except.ok.injEq] at same
    simp [same, Qualifies, List.isEmpty_iff.mp draft]
  · simp only [Except.map, draft, Bool.false_eq_true, if_false] at same
    have unit : r.unitId ≠ [] := fun empty => draft (List.isEmpty_iff.mpr empty)
    simp [Qualifies, ← same, unit]

theorem consider_succeeds {r : Rule} {context : Fields}
    (calm : ∀ c ∈ r.conditions, ∃ b, c.evaluate context = .ok b) :
    ∃ verdict, r.consider context = .ok verdict := by
  have results : ∃ results, r.conditionResults context = .ok results := by
    apply mapM_succeeds
    intro c valid
    obtain ⟨b, said⟩ := calm c (List.mem_of_mem_filter valid)
    exact ⟨⟨c.field, c.operator, b⟩, by simp only [Condition.resultIn, said, Except.map]⟩
  obtain ⟨results, evaluated⟩ := results
  unfold consider
  rw [evaluated]
  repeat' split
  all_goals exact ⟨_, rfl⟩

end Rule

namespace Engine

theorem firstMatch_winner {context : Fields} {rules : List Rule} {winner : Option Rule}
    {trace : List TraceEntry} (found : firstMatch context rules = .ok (winner, trace)) :
    match winner with
    | some r => ∃ before after, rules = before ++ r :: after ∧ r.Qualifies context ∧
        ∀ b ∈ before, ¬ b.Qualifies context
    | none => ∀ r ∈ rules, ¬ r.Qualifies context := by
  induction rules generalizing winner trace with
  | nil =>
      simp only [firstMatch, Except.ok.injEq, Prod.mk.injEq] at found
      obtain ⟨rfl, rfl⟩ := found
      exact fun r member => absurd member List.not_mem_nil
  | cons rule rest ih =>
      simp only [firstMatch, bind_eq_ok] at found
      obtain ⟨verdict, considered, found⟩ := found
      have qualifies := Rule.isMatch_of_consider considered
      by_cases matched : verdict.isMatch = true
      · simp only [matched, if_true, pure_ok, Except.ok.injEq, Prod.mk.injEq] at found
        obtain ⟨rfl, rfl⟩ := found
        exact ⟨[], rest, rfl, qualifies.mp matched, by simp⟩
      · simp only [matched, Bool.false_eq_true, if_false, bind_eq_ok, pure_ok, Except.ok.injEq,
          Prod.mk.injEq] at found
        obtain ⟨⟨later, trace⟩, foundLater, rfl, rfl⟩ := found
        have unqualified : ¬ rule.Qualifies context := fun q => matched (qualifies.mpr q)
        have tail := ih foundLater
        cases later with
        | none => exact List.forall_mem_cons.mpr ⟨unqualified, tail⟩
        | some r =>
            obtain ⟨before, after, rfl, q, earlier⟩ := tail
            exact ⟨rule :: before, after, rfl, q, List.forall_mem_cons.mpr ⟨unqualified, earlier⟩⟩

theorem firstMatch_succeeds {context : Fields} {rules : List Rule}
    (calm : ∀ r ∈ rules, ∃ verdict, r.consider context = .ok verdict) :
    ∃ outcome, firstMatch context rules = .ok outcome := by
  induction rules with
  | nil => exact ⟨(none, []), rfl⟩
  | cons rule rest ih =>
      obtain ⟨verdict, considered⟩ := calm rule List.mem_cons_self
      obtain ⟨later, found⟩ := ih fun r member => calm r (List.mem_cons_of_mem rule member)
      by_cases matched : verdict.isMatch = true
      · exact ⟨(some rule, _), by simp only [firstMatch, considered, bind_ok, matched, if_true]; rfl⟩
      · exact ⟨_, by simp only [firstMatch, considered, bind_ok, matched, found]; rfl⟩

end Engine

namespace RuleSet

/-- The rule at a position is the one to select: it qualifies and stands before all others that do,
    by priority first and by position where that ties. -/
def Selects (rs : RuleSet) (context : Fields) (i : Nat) (r : Rule) : Prop :=
  r.Qualifies context ∧
    ∀ j s, rs.rules[j]? = some s → j ≠ i → s.Qualifies context →
      s.priority < r.priority ∨ (s.priority = r.priority ∧ i < j)

theorem Selects.unique {rs : RuleSet} {context : Fields} {i j : Nat} {r s : Rule}
    (placedR : rs.rules[i]? = some r) (placedS : rs.rules[j]? = some s)
    (selectedR : rs.Selects context i r) (selectedS : rs.Selects context j s) : i = j := by
  by_contra ne
  have first := selectedR.2 j s placedS (Ne.symm ne) selectedS.1
  have second := selectedS.2 i r placedR ne selectedR.1
  omega

end RuleSet

namespace Engine

theorem winner_selected {rs : RuleSet} {context : Fields} {r : Rule} {trace : List TraceEntry}
    (found : firstMatch context rs.ordered = .ok (some r, trace)) :
    ∃ i, rs.rules[i]? = some r ∧ rs.Selects context i r := by
  obtain ⟨before, after, split, qualifies, earlier⟩ := firstMatch_winner found
  rw [← rs.ranked_map_fst] at split
  obtain ⟨front, back, ranked, rfl, second⟩ := List.map_eq_append_iff.mp split
  obtain ⟨⟨winner, i⟩, behind, rfl, rfl, rfl⟩ := List.map_eq_cons_iff.mp second
  have placed : rs.rules[i]? = some winner := RuleSet.mem_ranked.mp (by simp [ranked])
  refine ⟨i, placed, qualifies, ?_⟩
  intro j s other ne qualifiesOther
  have member : (s, j) ∈ front ++ (winner, i) :: behind := ranked ▸ RuleSet.mem_ranked.mpr other
  rcases List.mem_append.mp member with inFront | inBack
  · exact absurd qualifiesOther (earlier s (List.mem_map_of_mem inFront))
  · rcases List.mem_cons.mp inBack with same | inBehind
    · exact absurd (congrArg Prod.snd same) ne
    · have ordered := rs.ranked_pairwise
      rw [ranked] at ordered
      exact (List.pairwise_cons.mp (List.pairwise_append.mp ordered).2.1).1 (s, j) inBehind

theorem evaluate_eq_ok {rs : RuleSet} {context : Fields} {e : Evaluation} :
    (ofRuleSet rs).evaluate context = .ok e ↔
      firstMatch context rs.ordered = .ok (e.winner, e.trace) ∧
        e.unitId = (e.winner.map (·.unitId)).getD rs.defaultUnitId := by
  simp only [evaluate, ofRuleSet, bind_eq_ok, Prod.exists]
  constructor
  · rintro ⟨winner, trace, found, made⟩
    cases winner <;> simp only [pure_ok, Except.ok.injEq] at made <;> subst made <;>
      exact ⟨found, rfl⟩
  · rintro ⟨found, unit⟩
    obtain ⟨unitId, winner, trace⟩ := e
    refine ⟨winner, trace, found, ?_⟩
    cases winner <;> simp only at unit <;> subst unit <;> rfl

theorem evaluate_of_firstMatch {rs : RuleSet} {context : Fields} {r : Rule} {trace : List TraceEntry}
    (descending : rs.rules.Pairwise fun a b => b.priority ≤ a.priority)
    (found : firstMatch context rs.rules = .ok (some r, trace)) :
    (ofRuleSet rs).evaluate context = .ok ⟨r.unitId, some r, trace⟩ := by
  refine evaluate_eq_ok.mpr ⟨?_, rfl⟩
  rw [RuleSet.ordered, Rule.inOrder_of_pairwise descending]
  exact found

end Engine

namespace Evaluation

/-- The evaluation reports a rule, by its id, its name and its unit. -/
def Picks (e : Evaluation) (r : Rule) : Prop :=
  e.matchedRuleId = some r.id ∧ e.matchedRuleName = some r.name ∧ e.unitId = r.unitId

end Evaluation

/-- The report of an evaluation names a rule exactly if it is the one to select. Without a rule that
    qualifies it names the default unit and no rule. -/
theorem evaluate_picks_iff_selects {version defaultUnitId : Text} {rules : List Rule} {rs : RuleSet}
    (made : RuleSet.create version defaultUnitId rules = .ok rs) {context : Fields}
    (calm : ∀ r ∈ rs.rules, ∀ c ∈ r.conditions, ∃ b, c.evaluate context = .ok b) :
    ∃ e, (Engine.ofRuleSet rs).evaluate context = .ok e ∧
      (∀ i r, rs.rules[i]? = some r → (e.Picks r ↔ rs.Selects context i r)) ∧
      ((∀ r ∈ rs.rules, ¬ r.Qualifies context) →
        e.unitId = rs.defaultUnitId ∧ e.matchedRuleId = none) := by
  have distinct : RuleSet.DistinctIds rs.rules := by
    obtain ⟨distinct, rfl⟩ := RuleSet.create_eq_ok.mp made
    exact distinct
  have considered : ∀ r ∈ rs.ordered, ∃ verdict, r.consider context = .ok verdict := by
    intro r member
    exact Rule.consider_succeeds (calm r (List.mem_mergeSort.mp member))
  obtain ⟨⟨winner, trace⟩, found⟩ := Engine.firstMatch_succeeds considered
  refine ⟨⟨(winner.map (·.unitId)).getD rs.defaultUnitId, winner, trace⟩,
    Engine.evaluate_eq_ok.mpr ⟨found, rfl⟩, ?_, ?_⟩
  · intro i r placed
    cases winner with
    | none =>
        have nobody := Engine.firstMatch_winner found
        have member : r ∈ rs.ordered := List.mem_mergeSort.mpr (List.mem_of_getElem? placed)
        constructor
        · rintro ⟨named, -⟩
          cases named
        · rintro ⟨qualifies, -⟩
          exact absurd qualifies (nobody r member)
    | some w =>
        obtain ⟨k, placedW, selected⟩ := Engine.winner_selected found
        constructor
        · rintro ⟨named, -⟩
          have samePlace := distinct.position_unique placedW placed (Option.some.inj named)
          subst samePlace
          cases placed.symm.trans placedW
          exact selected
        · intro selectedR
          have samePlace := RuleSet.Selects.unique placed placedW selectedR selected
          subst samePlace
          cases placed.symm.trans placedW
          exact ⟨rfl, rfl, rfl⟩
  · intro nobody
    cases winner with
    | none => exact ⟨rfl, rfl⟩
    | some w =>
        obtain ⟨k, placedW, selected⟩ := Engine.winner_selected found
        exact absurd selected.1 (nobody w (List.mem_of_getElem? placedW))

/-- Of two rules with one priority that both match, the first is picked, before a rule of a higher
    priority that has no unit. -/
theorem evaluate_picks_first_of_tie :
    let condition : Condition := ⟨"channel", "EQUALS", some "chat", [], none⟩
    let draft : Rule := ⟨"draft", [], 9, [], [condition], .all⟩
    let first : Rule := ⟨"first", "A", 5, "unit-a", [condition], .any⟩
    let second : Rule := ⟨"second", "B", 5, "unit-b", [condition], .all⟩
    ∃ e, (Engine.ofRuleSet ⟨"1.0", "unit-0", [draft, first, second]⟩).evaluate
      [("channel", .text "chat")] = .ok e ∧ e.Picks first := by
  intro condition draft first second
  have holds : condition.evaluate [("channel", .text "chat")] = .ok true := rfl
  have made : RuleSet.create "1.0" "unit-0" [draft, first, second] =
      .ok ⟨"1.0", "unit-0", [draft, first, second]⟩ := rfl
  have calm : ∀ r ∈ [draft, first, second], ∀ c ∈ r.conditions,
      ∃ b, c.evaluate [("channel", .text "chat")] = .ok b := by
    intro r member c given
    simp only [List.mem_cons, List.not_mem_nil, or_false] at member
    rcases member with rfl | rfl | rfl <;> exact ⟨true, List.mem_singleton.mp given ▸ holds⟩
  obtain ⟨e, evaluated, picks, -⟩ := evaluate_picks_iff_selects made calm
  refine ⟨e, evaluated, (picks 1 first rfl).mpr ⟨⟨by decide, rfl⟩, ?_⟩⟩
  intro j s placed ne qualifies
  rcases j with _ | _ | _ | j
  · cases placed
    exact absurd rfl qualifies.1
  · exact absurd rfl ne
  · cases placed
    exact .inr ⟨rfl, by decide⟩
  · cases placed

end UnitRouting
