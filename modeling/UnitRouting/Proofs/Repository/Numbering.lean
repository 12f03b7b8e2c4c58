import Mathlib.Data.List.Nodup
import Mathlib.Data.List.Perm.Subperm
import UnitRouting.Proofs.Rule.Creation
import UnitRouting.Proofs.Text.Digits
import UnitRouting.Repository

/-! # Numbers of new rules

The number of a new rule is looked for among one more candidates than there are rules. Different
numbers give different ids, so one of the candidates is free. An edit has no say in the id. -/

namespace UnitRouting.Repository

open Outcome

theorem numberedId_injective : Function.Injective numberedId := by
  intro m n same
  exact Text.ofNat_injective (List.append_cancel_left same)

theorem used_of_freeFrom_used {used : List Text} {steps n : Nat}
    (taken : numberedId (freeFrom used steps n) ∈ used) :
    ∀ k ≤ steps, numberedId (n + k) ∈ used := by
  induction steps generalizing n with
  | zero =>
      intro k none
      obtain rfl : k = 0 := by omega
      exact taken
  | succ steps ih =>
      intro k within
      unfold freeFrom at taken
      split at taken
      · next here =>
          cases k with
          | zero => exact List.contains_iff_mem.mp here
          | succ k =>
              have later := ih taken k (by omega)
              rwa [Nat.add_right_comm n 1 k] at later
      · next free => exact absurd (List.contains_iff_mem.mpr taken) free

theorem freeFrom_free (used : List Text) (n : Nat) :
    numberedId (freeFrom used used.length n) ∉ used := by
  intro taken
  let candidates := (List.range (used.length + 1)).map fun k => numberedId (n + k)
  have distinct : candidates.Nodup := by
    refine List.Nodup.map ?_ List.nodup_range
    intro j k same
    have := numberedId_injective same
    omega
  have subset : candidates ⊆ used := by
    intro id member
    obtain ⟨k, within, rfl⟩ := List.mem_map.mp member
    exact used_of_freeFrom_used taken k (by have := List.mem_range.mp within; omega)
  have size := (List.subperm_of_subset distinct subset).length_le
  simp only [candidates, List.length_map, List.length_range] at size
  omega

/-- The number of the next rule is free. -/
theorem nextNumber_free (repo : Repository) :
    numberedId repo.nextNumber ∉ repo.ruleSet.rules.map (·.id) := by
  have free := freeFrom_free (repo.ruleSet.rules.map (·.id)) (repo.counter + 1)
  rwa [List.length_map] at free

/-- The priority of the rule with a number, unless another one is asked for. -/
def defaultPriority (n : Nat) : Int := firstPriority - ((n : Int) - 1) * priorityStep

variable {n : Nat} {edit : RuleEdit} {r : Rule}

theorem newRule_eq_ok : newRule n edit = .ok r ↔
    edit.unknown.isEmpty = true ∧ Rule.create (edit.applyTo (newRuleInput n)) = .ok r := by
  unfold newRule
  split
  · next none => simp only [none, true_and]
  · next some =>
      constructor
      · intro refused
        cases refused
      · rintro ⟨none, -⟩
        exact absurd none some

theorem complete_newRuleInput (n : Nat) : (newRuleInput n).Complete :=
  ⟨⟨_, rfl⟩, ⟨_, rfl⟩, ⟨_, rfl⟩, ⟨_, rfl⟩, by nofun⟩

theorem newRule_expected (n : Nat) (edit : RuleEdit) :
    Settles (Fault.Expected (edit.Proper ∧ edit.unknown = [])) (fun _ => True) (newRule n edit) := by
  unfold newRule
  split
  · apply (Rule.create_applyTo_ofInput (complete_newRuleInput n) edit).weaken
    exact fun _ ofInput => (ofInput.imp And.left).expected
  · next some =>
      refine .error (.wrongKind ?_)
      rintro ⟨-, none⟩
      exact some (List.isEmpty_iff.mpr none)

theorem id_of_newRule (made : newRule n edit = .ok r) : r.id = numberedId n := by
  have read := (Rule.create_eq_ok.mp (newRule_eq_ok.mp made).2).1
  exact (Value.text.inj (Rule.idText_eq_ok.mp read).1).symm

theorem priority_of_newRule (made : newRule n edit = .ok r) (default : edit.priority = none) :
    r.priority = defaultPriority n := by
  have read := (Rule.create_eq_ok.mp (newRule_eq_ok.mp made).2).2.1
  rw [RuleEdit.applyTo, default] at read
  exact (Except.ok.inj read).symm

end UnitRouting.Repository
