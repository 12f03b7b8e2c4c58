import UnitRouting.Rule.Engine

/-! # Reports

An evaluation told in lines of text: the outcome, then a block for each rule that was considered. -/

namespace UnitRouting.Evaluation

/-- What a condition said. -/
def resultLine (r : ConditionResult) : Text :=
  "  " ++ r.field ++ " " ++ r.operator ++ ": "
    ++ (if r.result then Text.ofString "true" else Text.ofString "false")

/-- Whether the rule matched. -/
def outcomeLine (matched : Bool) : Text :=
  "  Result: " ++ (if matched then Text.ofString "MATCH" else Text.ofString "NO MATCH")

/-- The lines about a verdict. -/
def verdictLines : Verdict → List Text
  | .missingUnitId => ["  Skipped - No unit ID configured"]
  | .noConditions => ["  Skipped - No conditions configured"]
  | .noValidConditions => ["  No valid conditions configured", outcomeLine false]
  | .tested results matched => results.map resultLine ++ [outcomeLine matched]

/-- The block about a rule, after a blank line. -/
def entryLines (entry : TraceEntry) : List Text :=
  [] :: ("Evaluating Rule: " ++ entry.name ++ " (Priority: " ++ Text.ofInt entry.priority ++ ")")
    :: verdictLines entry.verdict

/-- What is put in place of the name if there is none to show. -/
def noWinnerName : Text := "None (using default)"

/-- The name of the rule that matched; a rule without a name is told like no rule. -/
def winnerName (e : Evaluation) : Text :=
  match e.winner with
  | some rule => if rule.name.isEmpty then noWinnerName else rule.name
  | none => noWinnerName

def reportLines (e : Evaluation) : List Text :=
  ["Matched Rule: " ++ e.winnerName, "Result Unit ID: " ++ e.unitId, "Evaluation Details:"]
    ++ e.trace.flatMap entryLines
    ++ if e.usedDefault then [[], "No rules matched - using default unit ID"] else []

/-- The report of an evaluation; a priority beyond the digit limit cannot be told. -/
def report (e : Evaluation) : Except Fault Text :=
  if e.trace.all fun entry => decide (entry.priority.natAbs < numeralBound) then
    .ok (Text.join "\n" e.reportLines)
  else .error .numeralTooLong

end UnitRouting.Evaluation
