import UnitRouting.Proofs.Rule.Trace
import UnitRouting.Proofs.Text.Digits
import UnitRouting.Proofs.Text.Lines
import UnitRouting.Rule.Report

/-! # What a report tells

A report begins with the rule that matched, goes on with a block for each rule that was looked at, and
ends with the decision. It tells the decision as it is, but for the name in the first line: a rule that
matched and has no name is told there like no rule at all, and a name with a line end in it goes on in the
next line. -/

namespace UnitRouting

namespace TraceEntry

/-- Why a rule was not tested, by name and as a line of a report. -/
inductive Explains : Text → Text → Prop where
  | missingUnitId : Explains "missing_unit_id" "  Skipped - No unit ID configured"
  | noConditions : Explains "no_conditions" "  Skipped - No conditions configured"
  | noValidConditions : Explains "no_valid_conditions" "  No valid conditions configured"

/-- The line that begins with the name of the rule. -/
def heading (entry : TraceEntry) : Text :=
  "Evaluating Rule: " ++ entry.name ++ " (Priority: " ++ Text.ofInt entry.priority ++ ")"

/-- The last line of the block about a rule that matched. -/
def matchLine : Text := "  Result: MATCH"

/-- The last line of the block about a rule that did not match. -/
def mismatchLine : Text := "  Result: NO MATCH"

/-- The block about a rule, by the status, the reason and the results that clients see: a blank line and
    the heading; then, if the rule was skipped, why; and else what its conditions said, or why they were
    not asked, and whether the rule matched. -/
inductive IsBlock (entry : TraceEntry) : List Text → Prop where
  | skipped {reason line : Text} (status : entry.status = "skipped")
      (given : entry.reason = some reason) (told : Explains reason line) :
      IsBlock entry [[], entry.heading, line]
  | untested {reason line : Text} (status : entry.status = "no_match")
      (given : entry.reason = some reason) (told : Explains reason line) :
      IsBlock entry [[], entry.heading, line, mismatchLine]
  | unmatched (status : entry.status = "no_match") (tested : entry.reason = none) :
      IsBlock entry ([[], entry.heading] ++ entry.results.map Evaluation.resultLine ++
        [mismatchLine])
  | matched (status : entry.status = "matched") (tested : entry.reason = none) :
      IsBlock entry ([[], entry.heading] ++ entry.results.map Evaluation.resultLine ++
        [matchLine])

theorem outcomeLine_eq (matched : Bool) :
    Evaluation.outcomeLine matched = if matched then matchLine else mismatchLine := by
  cases matched <;> decide

theorem isBlock_entryLines (entry : TraceEntry) : entry.IsBlock (Evaluation.entryLines entry) := by
  obtain ⟨ruleId, name, priority, verdict⟩ := entry
  cases verdict with
  | missingUnitId => exact .skipped rfl rfl .missingUnitId
  | noConditions => exact .skipped rfl rfl .noConditions
  | noValidConditions =>
      rw [Evaluation.entryLines, Evaluation.verdictLines, outcomeLine_eq]
      exact .untested rfl rfl .noValidConditions
  | tested results matched =>
      rw [Evaluation.entryLines, Evaluation.verdictLines, outcomeLine_eq]
      cases matched with
      | true => exact .matched rfl rfl
      | false => exact .unmatched rfl rfl

theorem IsBlock.getLast?_of_matched {entry : TraceEntry} {block : List Text}
    (isBlock : entry.IsBlock block) (told : entry.status = "matched") :
    block.getLast? = some matchLine := by
  cases isBlock with
  | skipped status | untested status | unmatched status =>
      exact absurd (status.symm.trans told) (by decide)
  | matched => rw [List.getLast?_concat]

end TraceEntry

namespace Evaluation

/-- The last line of the report if no rule matched. -/
def defaultRemark : Text := "No rules matched - using default unit ID"

/-- The first line names the rule that matched, or says that none did. -/
def NamedIn (e : Evaluation) (text : Text) : Prop :=
  text.lines.head? = some ("Matched Rule: " ++ e.matchedRuleName.getD "None (using default)")

/-- After three lines, of which the second tells the unit, there is one block for each entry of the
    trace, in order, and after these at most the remark that no rule matched. -/
def ListedIn (e : Evaluation) (text : Text) : Prop :=
  ∃ first blocks,
    text = Text.join "\n" ([first, "Result Unit ID: " ++ e.unitId, "Evaluation Details:"] ++
      List.flatten blocks ++
      if e.usedDefault then [[], defaultRemark] else []) ∧
    List.Forall₂ TraceEntry.IsBlock e.trace blocks

/-- The last line says that no rule matched if none did, and else that the last one matched. -/
def ClosedIn (e : Evaluation) (text : Text) : Prop :=
  text.lines.getLast? = some (if e.usedDefault then defaultRemark else TraceEntry.matchLine)

variable {e : Evaluation} {text : Text}

theorem report_eq_ok : e.report = .ok text ↔
    (∀ entry ∈ e.trace, entry.priority.natAbs < numeralBound) ∧ text = Text.join "\n" e.reportLines := by
  simp only [report, List.all_eq_true, decide_eq_true_eq]
  split
  · next fits =>
      rw [Except.ok.injEq, eq_comm]
      exact (and_iff_right fits).symm
  · next beyond => simp [beyond]

theorem report_eq_error {fault : Fault} : e.report = .error fault ↔
    fault = .numeralTooLong ∧ ∃ entry ∈ e.trace, numeralBound ≤ entry.priority.natAbs := by
  simp only [report, List.all_eq_true, decide_eq_true_eq]
  split
  · next fits =>
      simp only [reduceCtorEq, false_iff, not_and, not_exists]
      exact fun _ entry member => Nat.not_le.mpr (fits entry member)
  · next beyond =>
      simp only [not_forall, Nat.not_lt, exists_prop] at beyond
      simp only [Except.error.injEq, beyond, and_true, eq_comm]

theorem namedIn_report_iff (told : e.report = .ok text) : e.NamedIn text ↔
    ∀ name, e.matchedRuleName = some name → name.FitsLine := by
  obtain ⟨-, rfl⟩ := report_eq_ok.mp told
  have first : (Text.join "\n" e.reportLines).lines.head? =
      some ("Matched Rule: " ++ e.winnerName.before '\n') := by
    rw [← Text.before_append_of_not_mem (by decide)]
    exact Text.head?_lines_join _ _
  rw [NamedIn, first, Option.some_inj, List.append_cancel_left_eq, matchedRuleName, winnerName]
  cases e.winner with
  | none =>
      simp only [Option.map_none, Option.getD_none, reduceCtorEq, false_implies, implies_true,
        iff_true]
      decide
  | some r =>
      simp only [Option.map_some, Option.getD_some, Option.some.injEq, forall_eq', Text.FitsLine]
      cases r.name with
      | nil => decide
      | cons c rest => simp [Text.before_eq_self_iff]

theorem listedIn_report (told : e.report = .ok text) : e.ListedIn text := by
  obtain ⟨-, rfl⟩ := report_eq_ok.mp told
  refine ⟨"Matched Rule: " ++ e.winnerName, e.trace.map entryLines, ?_, ?_⟩
  · rw [← List.flatMap_def]
    rfl
  · rw [List.forall₂_map_right_iff, List.forall₂_same]
    exact fun entry _ => entry.isBlock_entryLines

theorem closedIn_report {rs : RuleSet} {context : Fields} (tells : e.TellsOf context rs)
    (told : e.report = .ok text) : e.ClosedIn text := by
  obtain ⟨-, rfl⟩ := report_eq_ok.mp told
  cases tells with
  | unmatched _ unnamed =>
      have used : e.usedDefault = true := by rw [usedDefault, unnamed, Option.isNone_none]
      rw [ClosedIn, used]
      apply Text.getLast?_lines_join _ (by decide)
      simp only [reportLines, used, if_true, List.getLast?_append]
      rfl
  | @matched _ _ _ _ last _ picked trace _ _ matched =>
      have unused : e.usedDefault = false := by rw [usedDefault, picked.1, Option.isNone_some]
      have block : (entryLines last).getLast? = some TraceEntry.matchLine :=
        last.isBlock_entryLines.getLast?_of_matched matched
      rw [ClosedIn, unused]
      apply Text.getLast?_lines_join _ (by decide)
      simp only [reportLines, unused, trace, List.flatMap_append, List.flatMap_singleton,
        Bool.false_eq_true, if_false, List.append_nil, List.getLast?_append, block, Option.some_or]

end Evaluation

/-- Every evaluation that comes to an end can be reported, unless it looked at a rule with a priority
    beyond the digit limit. The report lists the rules that were looked at, each in a block of its own and
    in their order, and its last line is right about whether a rule matched. So is its first line, which
    names the rule, exactly if no rule matched or the name of the one that did fits in a line. -/
theorem report_tells_decision_iff_name_fits_line {rs : RuleSet} {context : Fields} {e : Evaluation}
    (evaluated : (Engine.ofRuleSet rs).evaluate context = .ok e) :
    (∀ fault, e.report = .error fault ↔
      fault = .numeralTooLong ∧ ∃ entry ∈ e.trace, numeralBound ≤ entry.priority.natAbs) ∧
    ∀ text, e.report = .ok text →
      (e.NamedIn text ↔ ∀ name, e.matchedRuleName = some name → name.FitsLine) ∧
      e.ListedIn text ∧ e.ClosedIn text := by
  constructor
  · intro fault
    exact Evaluation.report_eq_error
  · intro text told
    exact ⟨Evaluation.namedIn_report_iff told, Evaluation.listedIn_report told,
      Evaluation.closedIn_report (Engine.tellsOf_of_evaluate evaluated) told⟩

/-- One rule is passed over, one does not match and one does. -/
theorem report_of_three_rules :
    let sales : Condition := ⟨"queue", "EQUALS", some "sales", [], none⟩
    let chat : Condition := ⟨"channel", "EQUALS", some "chat", [], none⟩
    let draft : Rule := ⟨"draft", "Draft", 9, [], [sales], .all⟩
    let strict : Rule := ⟨"strict", "Strict", 8, "unit-1", [sales, chat], .all⟩
    let loose : Rule := ⟨"loose", "Loose", 7, "unit-2", [sales, chat], .any⟩
    ∃ e text, (Engine.ofRuleSet ⟨"1.0", "unit-0", [draft, strict, loose]⟩).evaluate
        [("queue", .text "sales")] = .ok e ∧
      e.Picks loose ∧ e.report = .ok text ∧ e.NamedIn text ∧ e.ListedIn text ∧ e.ClosedIn text := by
  intro sales chat draft strict loose
  let rs : RuleSet := ⟨"1.0", "unit-0", [draft, strict, loose]⟩
  obtain ⟨trace, found, priorities⟩ : ∃ trace,
      Engine.firstMatch [("queue", .text "sales")] rs.rules = .ok (some loose, trace) ∧
        trace.map (·.priority) = [9, 8, 7] := ⟨_, rfl, rfl⟩
  let e : Evaluation := ⟨loose.unitId, some loose, trace⟩
  have evaluated : (Engine.ofRuleSet rs).evaluate [("queue", .text "sales")] = .ok e :=
    Engine.evaluate_of_firstMatch (by decide) found
  have small : tenTo 1 ≤ numeralBound := tenTo_le_tenTo (by decide)
  have fits : ∀ entry ∈ e.trace, entry.priority.natAbs < numeralBound := by
    intro entry member
    have listed : entry.priority ∈ [9, 8, 7] := priorities ▸ List.mem_map_of_mem member
    have below : ∀ p ∈ ([9, 8, 7] : List Int), p.natAbs < tenTo 1 := by decide
    exact Nat.lt_of_lt_of_le (below _ listed) small
  have told : e.report = .ok (Text.join "\n" e.reportLines) :=
    Evaluation.report_eq_ok.mpr ⟨fits, rfl⟩
  obtain ⟨-, tells⟩ := report_tells_decision_iff_name_fits_line evaluated
  obtain ⟨named, listed, closed⟩ := tells _ told
  have fitsLine : ∀ name, e.matchedRuleName = some name → name.FitsLine := by
    rintro name ⟨⟩
    exact ⟨by decide, by decide⟩
  exact ⟨e, _, evaluated, ⟨rfl, rfl, rfl⟩, told, named.mpr fitsLine, listed, closed⟩

/-- A rule without a name matched, and the first line says that none did. -/
theorem nameless_winner_reported_as_none :
    let sales : Condition := ⟨"queue", "EQUALS", some "sales", [], none⟩
    let nameless : Rule := ⟨"rule-1", [], 9, "unit-1", [sales], .all⟩
    ∃ e text, (Engine.ofRuleSet ⟨"1.0", "unit-0", [nameless]⟩).evaluate
        [("queue", .text "sales")] = .ok e ∧
      e.Picks nameless ∧ e.usedDefault = false ∧ e.report = .ok text ∧
      text.lines.head? = some (Text.ofString "Matched Rule: None (using default)") ∧
      ¬ e.NamedIn text ∧ e.ClosedIn text := by
  intro sales nameless
  let e : Evaluation :=
    ⟨nameless.unitId, some nameless, [⟨"rule-1", [], 9, .tested [⟨"queue", "EQUALS", true⟩] true⟩]⟩
  have found : Engine.firstMatch [("queue", .text "sales")] [nameless] =
      .ok (some nameless, e.trace) := rfl
  have evaluated : (Engine.ofRuleSet ⟨"1.0", "unit-0", [nameless]⟩).evaluate
      [("queue", .text "sales")] = .ok e :=
    Engine.evaluate_of_firstMatch (List.pairwise_singleton _ nameless) found
  have small : (9 : Int).natAbs < numeralBound :=
    Nat.lt_of_lt_of_le (by decide) (tenTo_le_tenTo (by decide : 1 ≤ numeralLimit))
  have told : e.report = .ok (Text.join "\n" e.reportLines) :=
    Evaluation.report_eq_ok.mpr ⟨List.forall_mem_singleton.mpr small, rfl⟩
  refine ⟨e, _, evaluated, ⟨rfl, rfl, rfl⟩, rfl, told, by decide +kernel, ?_,
    Evaluation.closedIn_report (Engine.tellsOf_of_evaluate evaluated) told⟩
  intro named
  exact ((Evaluation.namedIn_report_iff told).mp named [] rfl).1 rfl

end UnitRouting
