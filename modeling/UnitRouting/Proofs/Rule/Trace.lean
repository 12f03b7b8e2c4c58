import UnitRouting.Proofs.Rule.Reordering
import UnitRouting.Proofs.Rule.Selection

/-! # What a trace tells

An evaluation looks at the rules in order, up to and including the first that matches. Its trace has
one entry for each rule that was looked at, and the entry tells exactly what there is to tell about
the rule: why it was passed over, or what each of its valid conditions said. Rules further down have
no influence, so an evaluation fails only for a rule that it gets to. -/

namespace UnitRouting

open Outcome

namespace TraceEntry

/-- The status as clients see it. -/
def status (entry : TraceEntry) : Text := (Evaluation.statusAndReason entry.verdict).1

/-- The reason as clients see it. -/
def reason (entry : TraceEntry) : Option Text := (Evaluation.statusAndReason entry.verdict).2

/-- The conditions that are listed, with what they said. -/
def results (entry : TraceEntry) : List ConditionResult := Evaluation.resultsOf entry.verdict

variable {entry : TraceEntry}

theorem status_eq_matched : entry.status = "matched" ↔ entry.verdict.isMatch = true := by
  unfold status
  cases entry.verdict with
  | tested results matched =>
      cases matched with
      | true => simp only [Evaluation.statusAndReason, Verdict.isMatch]
      | false =>
          simp only [Evaluation.statusAndReason, Verdict.isMatch]
          decide
  | _ => decide

/-- Status and reason tell a verdict from all others, unless conditions were tested. -/
theorem told_untested {verdict : Verdict}
    (untested : ∀ results matched, verdict ≠ .tested results matched) :
    entry.status = (Evaluation.statusAndReason verdict).1 ∧
        entry.reason = (Evaluation.statusAndReason verdict).2 ↔ entry.verdict = verdict := by
  unfold status reason
  rw [← Prod.ext_iff]
  cases verdict with
  | tested results matched => exact absurd rfl (untested results matched)
  | _ =>
      cases entry.verdict with
      | tested results matched => cases matched <;> simp [Evaluation.statusAndReason]
      | _ => decide

theorem told_tested : entry.reason = none ∧ (entry.status = "matched" ∨ entry.status = "no_match") ↔
    ∃ results matched, entry.verdict = .tested results matched := by
  unfold status reason
  cases entry.verdict with
  | tested results matched => cases matched <;> simp [Evaluation.statusAndReason]
  | _ => simp [Evaluation.statusAndReason]

end TraceEntry

/-- The result is what the condition says of a context. -/
def ConditionResult.TellsOf (context : Fields) (c : Condition) (result : ConditionResult) : Prop :=
  result.field = c.field ∧ result.operator = c.operator ∧
    c.evaluate context = .ok result.result

/-- The entry tells of a rule what there is to tell: its name and priority; that it has no unit, no
    conditions or no valid ones; or else what each of its valid conditions says, in order, and
    whether these are enough. -/
structure TraceEntry.TellsOf (context : Fields) (r : Rule) (entry : TraceEntry) : Prop where
  ruleId : entry.ruleId = r.id
  name : entry.name = r.name
  priority : entry.priority = r.priority
  missingUnitId : entry.status = "skipped" ∧ entry.reason = some "missing_unit_id" ↔ r.unitId = []
  noConditions : entry.status = "skipped" ∧ entry.reason = some "no_conditions" ↔
    r.unitId ≠ [] ∧ r.conditions = []
  noValidConditions : entry.status = "no_match" ∧ entry.reason = some "no_valid_conditions" ↔
    r.unitId ≠ [] ∧ r.conditions ≠ [] ∧ r.validConditions = []
  untested : r.unitId = [] ∨ r.validConditions = [] → entry.results = []
  tested : r.unitId ≠ [] → r.validConditions ≠ [] → entry.reason = none ∧
    (entry.status = "matched" ∨ entry.status = "no_match") ∧
    List.Forall₂ (ConditionResult.TellsOf context) r.validConditions entry.results
  matched : entry.status = "matched" ↔ r.unitId ≠ [] ∧ r.validConditions ≠ [] ∧
    match r.combinator with
    | .any => ∃ result ∈ entry.results, result.result = true
    | .all => ∀ result ∈ entry.results, result.result = true

theorem Condition.resultIn_eq_ok {c : Condition} {context : Fields} {result : ConditionResult} :
    c.resultIn context = .ok result ↔ result.TellsOf context c := by
  obtain ⟨field, operator, said⟩ := result
  simp only [resultIn, map_eq_ok, ConditionResult.mk.injEq, ConditionResult.TellsOf]
  grind

theorem Condition.resultIn_eq_error {c : Condition} {context : Fields} {fault : Fault} :
    c.resultIn context = .error fault ↔ c.evaluate context = .error fault :=
  map_eq_error

namespace Rule

variable {r : Rule} {context : Fields} {verdict : Verdict}

theorem conditionResults_eq_ok {results : List ConditionResult} :
    r.conditionResults context = .ok results ↔
      List.Forall₂ (ConditionResult.TellsOf context) r.validConditions results := by
  simp only [conditionResults, mapM_eq_ok, Condition.resultIn_eq_ok]

/-- A rule cannot be considered if it has a unit and a valid condition that cannot be evaluated. -/
theorem consider_fails_iff : (∃ fault, r.consider context = .error fault) ↔
    r.unitId ≠ [] ∧ ∃ c ∈ r.validConditions, ∃ fault, c.evaluate context = .error fault := by
  have results : (∃ fault, r.conditionResults context = .error fault) ↔
      ∃ c ∈ r.validConditions, ∃ fault, c.evaluate context = .error fault := by
    simp only [conditionResults, mapM_fails_iff, Condition.resultIn_eq_error]
  unfold consider
  split
  · next draft => simp [List.isEmpty_iff.mp draft]
  · next unit =>
      rw [List.isEmpty_iff] at unit
      split
      · next bare => simp [validConditions, List.isEmpty_iff.mp bare]
      · split
        · next invalid => simp [List.isEmpty_iff.mp invalid]
        · simp only [bind_eq_error, pure_ok, reduceCtorEq, and_false, exists_false, or_false,
            results, ne_eq, unit, not_false_eq_true, true_and]

/-- The four things that can become of a rule. -/
inductive Becomes (r : Rule) (context : Fields) : Verdict → Prop where
  | missingUnitId (draft : r.unitId = []) : Becomes r context .missingUnitId
  | noConditions (unit : r.unitId ≠ []) (bare : r.conditions = []) : Becomes r context .noConditions
  | noValidConditions (unit : r.unitId ≠ []) (given : r.conditions ≠ [])
      (invalid : r.validConditions = []) : Becomes r context .noValidConditions
  | tested (unit : r.unitId ≠ []) (given : r.conditions ≠ []) (valid : r.validConditions ≠ [])
      {results : List ConditionResult}
      (told : List.Forall₂ (ConditionResult.TellsOf context) r.validConditions results) :
      Becomes r context (.tested results (r.combinator.combine (results.map (·.result))))

theorem becomes_of_consider (considered : r.consider context = .ok verdict) :
    r.Becomes context verdict := by
  unfold consider at considered
  split at considered
  · next draft =>
      cases considered
      exact .missingUnitId (List.isEmpty_iff.mp draft)
  · next unit =>
      rw [List.isEmpty_iff] at unit
      split at considered
      · next bare =>
          cases considered
          exact .noConditions unit (List.isEmpty_iff.mp bare)
      · next given =>
          rw [List.isEmpty_iff] at given
          split at considered
          · next invalid =>
              cases considered
              exact .noValidConditions unit given (List.isEmpty_iff.mp invalid)
          · next valid =>
              rw [List.isEmpty_iff] at valid
              obtain ⟨results, said, told⟩ := bind_eq_ok.mp considered
              cases told
              exact .tested unit given valid (conditionResults_eq_ok.mp said)

theorem combine_eq_true {combinator : Combinator} {results : List ConditionResult} :
    combinator.combine (results.map (·.result)) = true ↔
      match combinator with
      | .any => ∃ result ∈ results, result.result = true
      | .all => ∀ result ∈ results, result.result = true := by
  cases combinator <;> simp [Combinator.combine]

theorem tellsOf_of_becomes (becomes : r.Becomes context verdict) :
    TraceEntry.TellsOf context r ⟨r.id, r.name, r.priority, verdict⟩ where
  ruleId := rfl
  name := rfl
  priority := rfl
  missingUnitId := by
    apply (@TraceEntry.told_untested _ .missingUnitId (by simp)).trans
    cases becomes <;> simp [*]
  noConditions := by
    apply (@TraceEntry.told_untested _ .noConditions (by simp)).trans
    cases becomes <;> simp [*]
  noValidConditions := by
    apply (@TraceEntry.told_untested _ .noValidConditions (by simp)).trans
    cases becomes <;> simp [*]
  untested passedOver := by
    cases becomes with
    | tested unit given valid told => exact absurd passedOver (by simp [unit, valid])
    | _ => rfl
  tested unit valid := by
    cases becomes with
    | missingUnitId draft => exact absurd draft unit
    | noConditions _ bare => exact absurd (by rw [validConditions, bare, List.filter_nil]) valid
    | noValidConditions _ _ invalid => exact absurd invalid valid
    | tested _ _ _ told => exact and_assoc.mp ⟨TraceEntry.told_tested.mpr ⟨_, _, rfl⟩, told⟩
  matched := by
    rw [TraceEntry.status_eq_matched]
    cases becomes with
    | missingUnitId draft => simp [Verdict.isMatch, draft]
    | noConditions _ bare => simp [Verdict.isMatch, validConditions, bare]
    | noValidConditions _ _ invalid => simp [Verdict.isMatch, invalid]
    | tested unit _ valid told =>
        simp only [unit, valid, ne_eq, not_false_eq_true, true_and]
        exact combine_eq_true

end Rule

namespace Engine

variable {context : Fields} {rules : List Rule} {trace : List TraceEntry}

/-- The entry of a rule in a trace. -/
def Enters (context : Fields) (r : Rule) (entry : TraceEntry) : Prop :=
  ∃ verdict, r.consider context = .ok verdict ∧ entry = ⟨r.id, r.name, r.priority, verdict⟩

theorem firstMatch_none (found : firstMatch context rules = .ok (none, trace)) :
    List.Forall₂ (Enters context) rules trace ∧ ∀ entry ∈ trace, entry.verdict.isMatch = false := by
  induction rules generalizing trace with
  | nil =>
      cases found
      exact ⟨.nil, by simp⟩
  | cons rule rest ih =>
      obtain ⟨verdict, considered, found⟩ := bind_eq_ok.mp found
      dsimp only at found
      split at found
      · cases found
      · next unmatched =>
          obtain ⟨⟨winner, later⟩, foundLater, same⟩ := bind_eq_ok.mp found
          cases same
          obtain ⟨entries, none⟩ := ih foundLater
          exact ⟨.cons ⟨verdict, considered, rfl⟩ entries,
            List.forall_mem_cons.mpr ⟨Bool.eq_false_iff.mpr unmatched, none⟩⟩

theorem firstMatch_some {winner : Rule}
    (found : firstMatch context rules = .ok (some winner, trace)) :
    ∃ earlier later before last, rules = earlier ++ winner :: later ∧ trace = before ++ [last] ∧
      List.Forall₂ (Enters context) (earlier ++ [winner]) trace ∧
      (∀ entry ∈ before, entry.verdict.isMatch = false) ∧ last.verdict.isMatch = true ∧
      ∀ others, firstMatch context (earlier ++ winner :: others) = .ok (some winner, trace) := by
  induction rules generalizing trace with
  | nil => cases found
  | cons rule rest ih =>
      obtain ⟨verdict, considered, found⟩ := bind_eq_ok.mp found
      dsimp only at found
      split at found
      · next matched =>
          cases found
          refine ⟨[], rest, [], _, rfl, rfl, .cons ⟨verdict, considered, rfl⟩ .nil, by simp, matched,
            fun others => ?_⟩
          simp only [List.nil_append, firstMatch, considered, bind_ok, matched, if_true, pure_ok]
      · next unmatched =>
          obtain ⟨⟨_, entries⟩, foundLater, same⟩ := bind_eq_ok.mp found
          cases same
          obtain ⟨earlier, later, before, last, rfl, rfl, entered, unmatchedLater, matched, alike⟩ :=
            ih foundLater
          refine ⟨rule :: earlier, later, _ :: before, last, rfl, rfl,
            .cons ⟨verdict, considered, rfl⟩ entered,
            List.forall_mem_cons.mpr ⟨Bool.eq_false_iff.mpr unmatched, unmatchedLater⟩, matched,
            fun others => ?_⟩
          simp only [List.cons_append, firstMatch, considered, bind_ok, unmatched, alike]
          rfl

theorem exists_split_cons {P Q : Rule → Prop} {rule : Rule} :
    (∃ earlier r later, rule :: rules = earlier ++ r :: later ∧ P r ∧ ∀ s ∈ earlier, Q s) ↔
      P rule ∨ (Q rule ∧ ∃ earlier r later, rules = earlier ++ r :: later ∧ P r ∧
        ∀ s ∈ earlier, Q s) := by
  constructor
  · rintro ⟨earlier, r, later, split, here, before⟩
    cases earlier with
    | nil =>
        obtain ⟨rfl, -⟩ := List.cons.inj split
        exact .inl here
    | cons first earlier =>
        obtain ⟨rfl, rest⟩ := List.cons.inj split
        obtain ⟨first, others⟩ := List.forall_mem_cons.mp before
        exact .inr ⟨first, earlier, r, later, rest, here, others⟩
  · rintro (here | ⟨first, earlier, r, later, rfl, here, others⟩)
    · exact ⟨[], rule, rules, rfl, here, by simp⟩
    · exact ⟨rule :: earlier, r, later, rfl, here, List.forall_mem_cons.mpr ⟨first, others⟩⟩

/-- A search fails for a rule that cannot be considered and that stands behind no rule that
    qualifies. -/
theorem firstMatch_fails_iff : (∃ fault, firstMatch context rules = .error fault) ↔
    ∃ earlier r later, rules = earlier ++ r :: later ∧ (∃ fault, r.consider context = .error fault) ∧
      ∀ s ∈ earlier, ¬ s.Qualifies context := by
  induction rules with
  | nil => simp [firstMatch]
  | cons rule rest ih =>
      rw [exists_split_cons, ← ih]
      cases considered : rule.consider context with
      | error fault => simp [firstMatch, considered]
      | ok verdict =>
          have qualifies := Rule.isMatch_of_consider considered
          by_cases matched : verdict.isMatch = true
          · simp [firstMatch, considered, matched, qualifies.mp matched]
          · have unqualified : ¬ rule.Qualifies context := mt qualifies.mpr matched
            simp [firstMatch, considered, matched, unqualified, bind_eq_error]

end Engine

/-- The evaluation tells of the rules that it looked at and of no others: of all of them, if none
    matched, and otherwise of those up to the one that it picks. Only the entry of this one says that
    it matched, and any other rules behind it would give the same evaluation. -/
inductive Evaluation.TellsOf (context : Fields) (rs : RuleSet) (e : Evaluation) : Prop where
  | unmatched {considered : List Rule} (order : Rule.Ordered rs.rules considered)
      (unnamed : e.matchedRuleId = none) (unit : e.unitId = rs.defaultUnitId)
      (entries : List.Forall₂ (TraceEntry.TellsOf context) considered e.trace)
      (unmatched : ∀ entry ∈ e.trace, entry.status ≠ "matched") : TellsOf context rs e
  | matched {earlier later : List Rule} {winner : Rule} {before : List TraceEntry}
      {last : TraceEntry} (order : Rule.Ordered rs.rules (earlier ++ winner :: later))
      (picked : e.Picks winner) (trace : e.trace = before ++ [last])
      (entries : List.Forall₂ (TraceEntry.TellsOf context) (earlier ++ [winner]) e.trace)
      (unmatched : ∀ entry ∈ before, entry.status ≠ "matched") (matched : last.status = "matched")
      (alone : ∀ (rs' : RuleSet) (others : List Rule),
        Rule.Ordered rs'.rules (earlier ++ winner :: others) →
          (Engine.ofRuleSet rs').evaluate context = .ok e) : TellsOf context rs e

namespace Engine

variable {rs : RuleSet} {context : Fields} {e : Evaluation}

theorem tellsOf_of_enters {considered : List Rule} {trace : List TraceEntry}
    (entered : List.Forall₂ (Enters context) considered trace) :
    List.Forall₂ (TraceEntry.TellsOf context) considered trace := by
  refine entered.imp ?_
  rintro r entry ⟨verdict, considered, rfl⟩
  exact Rule.tellsOf_of_becomes (Rule.becomes_of_consider considered)

theorem status_ne_matched {trace : List TraceEntry}
    (unmatched : ∀ entry ∈ trace, entry.verdict.isMatch = false) :
    ∀ entry ∈ trace, entry.status ≠ "matched" := by
  intro entry member told
  rw [TraceEntry.status_eq_matched, unmatched entry member] at told
  cases told

theorem tellsOf_of_evaluate (evaluated : (ofRuleSet rs).evaluate context = .ok e) :
    e.TellsOf context rs := by
  obtain ⟨found, unit⟩ := evaluate_eq_ok.mp evaluated
  cases winner : e.winner with
  | none =>
      rw [winner] at found unit
      obtain ⟨entered, unmatched⟩ := firstMatch_none found
      refine .unmatched (Rule.ordered_iff.mpr rfl) ?_ unit (tellsOf_of_enters entered)
        (status_ne_matched unmatched)
      rw [Evaluation.matchedRuleId, winner]
      rfl
  | some w =>
      rw [winner] at found unit
      obtain ⟨earlier, later, before, last, order, trace, entered, unmatched, matched, alike⟩ :=
        firstMatch_some found
      refine .matched (Rule.ordered_iff.mpr order.symm) ⟨?_, ?_, unit⟩ trace
        (tellsOf_of_enters entered) (status_ne_matched unmatched)
        (TraceEntry.status_eq_matched.mpr matched) fun rs' others order' => ?_
      · rw [Evaluation.matchedRuleId, winner]
        rfl
      · rw [Evaluation.matchedRuleName, winner]
        rfl
      · refine evaluate_eq_ok.mpr ⟨?_, ?_⟩
        · rw [RuleSet.ordered, ← Rule.ordered_iff.mp order', winner]
          exact alike others
        · rw [winner]
          exact unit

theorem evaluate_fails_iff_firstMatch : (∃ fault, (ofRuleSet rs).evaluate context = .error fault) ↔
    ∃ fault, firstMatch context rs.ordered = .error fault := by
  simp only [evaluate, ofRuleSet]
  cases firstMatch context rs.ordered with
  | error fault => simp
  | ok outcome =>
      obtain ⟨winner, trace⟩ := outcome
      cases winner <;> simp

end Engine

/-- An evaluation that succeeds tells of the rules in order, up to the one that it picks, exactly what
    there is to tell of each. It fails if and only if a rule with a unit has a valid condition that
    cannot be evaluated and no rule before it matches. -/
theorem evaluation_tells_of_rules_up_to_winner (rs : RuleSet) (context : Fields) :
    (∀ e, (Engine.ofRuleSet rs).evaluate context = .ok e → e.TellsOf context rs) ∧
    ((∃ fault, (Engine.ofRuleSet rs).evaluate context = .error fault) ↔
      ∃ earlier r later, Rule.Ordered rs.rules (earlier ++ r :: later) ∧
        (r.unitId ≠ [] ∧ ∃ c ∈ r.validConditions, ∃ fault, c.evaluate context = .error fault) ∧
        ∀ s ∈ earlier, ¬ s.Qualifies context) := by
  refine ⟨fun e evaluated => Engine.tellsOf_of_evaluate evaluated, ?_⟩
  rw [Engine.evaluate_fails_iff_firstMatch, Engine.firstMatch_fails_iff]
  simp only [Rule.ordered_iff, Rule.consider_fails_iff, RuleSet.ordered,
    @eq_comm _ (Rule.inOrder rs.rules)]

/-- Of six rules, one has no unit, one no conditions and one no valid condition, one does not match,
    one does, and the last one, which has the lowest priority, cannot be evaluated. -/
theorem five_of_six_rules_told :
    let sales : Condition := ⟨"queue", "EQUALS", some "sales", [], none⟩
    let chat : Condition := ⟨"channel", "EQUALS", some "chat", [], none⟩
    let nameless : Condition := ⟨" ", "EQUALS", some "sales", [], none⟩
    let huge : Condition := ⟨"duration", "GREATER_THAN",
      some ("0x1" ++ List.replicate 256 (CodePoint.ofChar '0')), [], none⟩
    let context : Fields := [("queue", .text "sales"), ("duration", .int 5)]
    let broken : Rule := ⟨"broken", "Broken", 1, "unit-1", [huge], .all⟩
    let draft : Rule := ⟨"draft", "Draft", 9, [], [huge], .all⟩
    let bare : Rule := ⟨"bare", "Bare", 8, "unit-2", [], .all⟩
    let blank : Rule := ⟨"blank", "Blank", 8, "unit-3", [nameless], .any⟩
    let strict : Rule := ⟨"strict", "Strict", 8, "unit-4", [sales, nameless, chat], .all⟩
    let loose : Rule := ⟨"loose", "Loose", 7, "unit-5", [sales, chat], .any⟩
    let rs : RuleSet := ⟨"1.0", "unit-0", [broken, draft, bare, blank, strict, loose]⟩
    let reasons : List (Text × Option Text) :=
      [("draft", some "missing_unit_id"), ("bare", some "no_conditions"),
        ("blank", some "no_valid_conditions"), ("strict", none), ("loose", none)]
    broken.consider context = .error .tooLarge ∧
      ∃ e, (Engine.ofRuleSet rs).evaluate context = .ok e ∧ e.Picks loose ∧
        e.trace.map (fun entry => (entry.ruleId, entry.reason)) = reasons ∧
        e.TellsOf context rs := by
  intro sales chat nameless huge context broken draft bare blank strict loose rs reasons
  let higher := [draft, bare, blank, strict, loose]
  have order : rs.ordered = higher ++ [broken] := by
    symm
    apply Rule.ordered_iff.mp
    refine ⟨List.perm_append_singleton broken higher, by decide, fun p => ?_⟩
    by_cases last : broken.priority = p
    · subst last
      rfl
    · have other : [broken].filter (·.priority == p) = [] := by simp [last]
      calc (higher ++ [broken]).filter (·.priority == p)
          = higher.filter (·.priority == p) := by rw [List.filter_append, other, List.append_nil]
        _ = ([broken] ++ higher).filter (·.priority == p) := by
            rw [List.filter_append, other, List.nil_append]
  obtain ⟨trace, found, told⟩ : ∃ trace,
      Engine.firstMatch context rs.ordered = .ok (some loose, trace) ∧
        trace.map (fun entry => (entry.ruleId, entry.reason)) = reasons := by
    rw [order]
    exact ⟨_, rfl, by decide +kernel⟩
  have evaluated : (Engine.ofRuleSet rs).evaluate context =
      .ok ⟨loose.unitId, some loose, trace⟩ :=
    Engine.evaluate_eq_ok.mpr ⟨found, rfl⟩
  exact ⟨by decide +kernel, _, evaluated, ⟨rfl, rfl, rfl⟩, told,
    (evaluation_tells_of_rules_up_to_winner rs context).1 _ evaluated⟩

end UnitRouting
