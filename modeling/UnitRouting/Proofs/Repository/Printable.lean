import UnitRouting.Proofs.Config.Loaded
import UnitRouting.Proofs.Json.Limit
import UnitRouting.Proofs.Repository.Step
import UnitRouting.Proofs.Value.Priority

/-! # Rules that can be printed

What is printed of a rule fails only for a priority beyond the digit limit. Priorities come from
values within the limit or from the numbers of new rules, so such a rule has a number with as many
digits as the limit allows. -/

namespace UnitRouting

open Outcome

namespace Rule

/-- The rule has the id of a new one whose number has as many digits as a numeral may have. -/
def FarNumbered (r : Rule) : Prop :=
  ∃ n, tenTo (numeralLimit - 1) ≤ n ∧ r.id = Repository.numberedId n

/-- The priority of the rule is within the digit limit, unless its number is that large. -/
def Printable (r : Rule) : Prop := r.priority.natAbs < numeralBound ∨ r.FarNumbered

end Rule

theorem numeralBound_eq : numeralBound = tenTo (numeralLimit - 1) * 10 := by
  have limit : numeralLimit = numeralLimit - 1 + 1 := rfl
  have power (n : Nat) : tenTo (n + 1) = tenTo n * 10 := rfl
  rw [← power, ← limit, numeralBound]

/-- The priority of a new rule grows with its number, and no faster than by one digit. -/
theorem defaultPriority_fits {n : Nat} (near : n < tenTo (numeralLimit - 1)) :
    (Repository.defaultPriority n).natAbs < numeralBound := by
  have room : tenTo 3 ≤ tenTo (numeralLimit - 1) := tenTo_le_tenTo (by decide)
  have thousand : tenTo 3 = 1000 := rfl
  rw [thousand] at room
  rw [numeralBound_eq, Repository.defaultPriority, Repository.firstPriority,
    Repository.priorityStep]
  generalize tenTo (numeralLimit - 1) = bound at near room ⊢
  omega

/-- The edit gives no priority beyond the digit limit. -/
def RuleEdit.Fits (edit : RuleEdit) : Prop := ∀ v, edit.priority = some v → v.Fits

theorem RuleEdit.fits_ofFields {fields : Fields} (fits : Value.FitsFields fields)
    (conditions : Option ConditionsInput) : (ofFields fields conditions).Fits :=
  fun _ found => Value.fits_of_get? fits found

namespace Rule

theorem priority_of_create {input : RuleInput} {r : Rule} (made : create input = .ok r)
    (fits : input.priority.Fits) : r.priority.natAbs < numeralBound :=
  Value.priority_fits fits (create_eq_ok.mp made).2.1

theorem lasting_printable : RuleSet.Lasting Printable := by
  intro r s conditions printable _ changed
  rw [eq_of_withChanges_ofConditions changed]
  exact printable

theorem printable_of_new {edit : RuleEdit} (fits : edit.Fits) {n : Nat} {r : Rule}
    (new : Repository.newRule n edit = .ok r) : r.Printable := by
  have made := (Repository.newRule_eq_ok.mp new).2
  cases given : edit.priority with
  | some v =>
      refine .inl (priority_of_create made ?_)
      simp only [RuleEdit.applyTo, given, Option.getD_some]
      exact fits v given
  | none =>
      rcases Nat.lt_or_ge n (tenTo (numeralLimit - 1)) with near | far
      · refine .inl (priority_of_create made ?_)
        simp only [RuleEdit.applyTo, given, Option.getD_none]
        exact defaultPriority_fits near
      · exact .inr ⟨n, far, Repository.id_of_newRule new⟩

theorem Printable.withChanges {edit : RuleEdit} (fits : edit.Fits) {r s : Rule}
    (printable : r.Printable) (changed : r.withChanges edit = .ok s) : s.Printable := by
  have made := (withChanges_eq_ok.mp changed).2
  cases given : edit.priority with
  | some v =>
      refine .inl (priority_of_create made ?_)
      simp only [RuleEdit.applyTo, given, Option.getD_some]
      exact fits v given
  | none =>
      rcases printable with within | ⟨n, far, numbered⟩
      · refine .inl (priority_of_create made ?_)
        simp only [RuleEdit.applyTo, given, Option.getD_none]
        exact within
      · exact .inr ⟨n, far, (id_of_withChanges changed).trans numbered⟩

end Rule

theorem RuleSet.priorities_fit_of_parse {t : Text} {rs : RuleSet} (parsed : parse t = .ok rs) :
    ∀ r ∈ rs.rules, r.priority.natAbs < numeralBound := by
  simp only [parse, bind_eq_ok, mapError_eq_ok] at parsed
  obtain ⟨v, read, loaded⟩ := parsed
  have fits := Json.fits_of_read read
  obtain ⟨-, fields, body, raws, rfl, root, listed, each⟩ := load_eq_ok loaded
  have bodyFits : (Value.object body).Fits := Value.fits_of_get? fits root
  have none : (Value.list []).Fits := trivial
  have rawsFit : (Value.list raws).Fits := listed ▸ Value.fits_getD bodyFits none _
  intro r member
  obtain ⟨i, raw, given, ruleLoaded⟩ := each r member
  obtain ⟨ruleFields, input, rfl, created, priority, -⟩ := Rule.load_made ruleLoaded
  refine Rule.priority_of_create created ?_
  rw [priority]
  have fieldsFit : Value.FitsFields ruleFields := Value.fitsItems_iff.mp rawsFit _ given
  exact Value.fits_getD fieldsFit Value.fits_zero _

theorem RuleSet.printable_of_parse {t : Text} {rs : RuleSet} (parsed : parse t = .ok rs) :
    rs.Sound Rule.Printable := by
  refine ⟨?_, fun r member => .inl (priorities_fit_of_parse parsed r member)⟩
  simp only [parse, bind_eq_ok] at parsed
  obtain ⟨v, -, loaded⟩ := parsed
  exact (load_eq_ok loaded).1

end UnitRouting
