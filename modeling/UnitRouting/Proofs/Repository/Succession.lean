import Mathlib.Order.Bounds.Basic
import UnitRouting.Proofs.Repository.History
import UnitRouting.Proofs.Rule.Ranking

/-! # Rules in the order of their creation

A new rule takes the least free number above the counter, and the search for it passes over no more
numbers than there are rules. Over a run the numbers grow, so the default priorities fall, and the
rules that keep theirs are considered in the order in which they were added. -/

namespace UnitRouting

open Outcome

namespace Repository

/-- The search for a free number from a number on, and how many numbers it passes over. It has no
    bound: where all numbers are in use it does not end. -/
inductive Seeks (used : List Text) : Nat → Nat → Nat → Prop where
  | found {n : Nat} (free : numberedId n ∉ used) : Seeks used 0 n n
  | further {passed n m : Nat} (taken : numberedId n ∈ used) (later : Seeks used passed (n + 1) m) :
      Seeks used (passed + 1) n m

variable {used : List Text} {passed n m : Nat}

theorem Seeks.isLeast (seeks : Seeks used passed n m) :
    IsLeast {k | n ≤ k ∧ numberedId k ∉ used} m := by
  induction seeks with
  | found free => exact ⟨⟨Nat.le_refl _, free⟩, fun k above => above.1⟩
  | @further passed n m taken later ih =>
      obtain ⟨⟨above, free⟩, least⟩ := ih
      refine ⟨⟨Nat.le_of_succ_le above, free⟩, ?_⟩
      rintro k ⟨from_, free⟩
      have other : k ≠ n := by
        rintro rfl
        exact free taken
      exact least ⟨by omega, free⟩

/-- With a bound that is large enough, the bounded search is the search. -/
theorem seeks_freeFrom {bound : Nat} (free : numberedId (freeFrom used bound n) ∉ used) :
    ∃ passed ≤ bound, Seeks used passed n (freeFrom used bound n) := by
  induction bound generalizing n with
  | zero => exact ⟨0, Nat.le_refl 0, .found free⟩
  | succ bound ih =>
      unfold freeFrom at free ⊢
      split
      · next taken =>
          rw [if_pos taken] at free
          obtain ⟨passed, few, later⟩ := ih free
          exact ⟨passed + 1, Nat.succ_le_succ few, .further (List.contains_iff_mem.mp taken) later⟩
      · next unused =>
          rw [if_neg unused] at free
          exact ⟨0, Nat.zero_le _, .found free⟩

/-- The number of the next rule is found after as many steps as there are rules, at the latest. -/
theorem seeks_nextNumber (repo : Repository) :
    ∃ passed ≤ repo.ruleSet.rules.length,
      Seeks repo.ruleSet.ids passed (repo.counter + 1) repo.nextNumber :=
  seeks_freeFrom repo.nextNumber_free

theorem isLeast_nextNumber (repo : Repository) :
    IsLeast {n | repo.counter < n ∧ numberedId n ∉ repo.ruleSet.ids} repo.nextNumber := by
  obtain ⟨passed, -, seeks⟩ := repo.seeks_nextNumber
  exact seeks.isLeast

theorem defaultPriority_lt {m n : Nat} (less : m < n) : defaultPriority n < defaultPriority m := by
  unfold defaultPriority firstPriority priorityStep
  omega

variable {repo : Repository} {command : Command} {edit : RuleEdit} {r : Rule}

/-- The rule that a command adds, if it adds one. -/
def addedBy (repo : Repository) : Command → Option Rule
  | .addRule edit =>
    match repo.answer (.addRule edit) with
    | .ok (.rule r) => some r
    | _ => none
  | _ => none

theorem addedBy_eq_some (adds : repo.addedBy command = some r) :
    ∃ edit, command = .addRule edit ∧ repo.answer (.addRule edit) = .ok (.rule r) := by
  cases command with
  | addRule edit =>
      simp only [addedBy] at adds
      split at adds
      · next answered =>
          cases adds
          exact ⟨edit, rfl, answered⟩
      · cases adds
  | _ => cases adds

/-- The rules that a run adds, one after the other. -/
def added : Repository → List Command → List Rule
  | _, [] => []
  | repo, command :: rest => (repo.addedBy command).toList ++ (repo.step command).added rest

theorem numbers_added (repo : Repository) (commands : List Command) :
    ∃ numbers, (repo.added commands).map (·.id) = numbers.map numberedId ∧
      (repo.counter :: numbers).Pairwise (· < ·) := by
  induction commands generalizing repo with
  | nil => exact ⟨[], rfl, List.pairwise_singleton _ _⟩
  | cons command rest ih =>
      obtain ⟨numbers, named, grow⟩ := ih (repo.step command)
      obtain ⟨above, later⟩ := List.pairwise_cons.mp grow
      cases adds : repo.addedBy command with
      | none =>
          refine ⟨numbers, by rw [added, adds]; exact named, List.pairwise_cons.mpr ⟨?_, later⟩⟩
          intro n member
          exact Nat.lt_of_le_of_lt (repo.advances_step command).counter_le (above n member)
      | some r =>
          obtain ⟨edit, rfl, answered⟩ := addedBy_eq_some adds
          obtain ⟨made, counted⟩ := step_of_added answered
          rw [counted] at grow
          refine ⟨repo.nextNumber :: numbers, ?_, List.pairwise_cons.mpr ⟨?_, grow⟩⟩
          · rw [added, adds, Option.toList_some, List.singleton_append, List.map_cons, named,
              id_of_newRule made, List.map_cons]
          · intro n member
            rcases List.mem_cons.mp member with rfl | member
            · exact repo.counter_lt_nextNumber
            · exact Nat.lt_trans repo.counter_lt_nextNumber (counted ▸ above n member)

theorem added_pairwise (repo : Repository) (commands : List Command) :
    (repo.added commands).Pairwise fun r s =>
      ∃ m n, r.id = numberedId m ∧ s.id = numberedId n ∧ m < n := by
  obtain ⟨numbers, named, grow⟩ := repo.numbers_added commands
  have ids : ((repo.added commands).map (·.id)).Pairwise fun x y =>
      ∃ m n, x = numberedId m ∧ y = numberedId n ∧ m < n := by
    rw [named]
    exact List.pairwise_map.mpr (grow.of_cons.imp fun less => ⟨_, _, rfl, rfl, less⟩)
  exact List.pairwise_map.mp ids

/-- The engine is always the one of the rule set. -/
theorem Advances.engine {next : Repository} (advances : Advances repo command next)
    (current : repo.engine = .ofRuleSet repo.ruleSet) : next.engine = .ofRuleSet next.ruleSet := by
  cases advances with
  | nowhere | counted => exact current
  | edited | added | replaced => rfl

theorem engine_after (current : repo.engine = .ofRuleSet repo.ruleSet) (commands : List Command) :
    (repo.after commands).engine = .ofRuleSet (repo.after commands).ruleSet := by
  induction commands generalizing repo with
  | nil => exact current
  | cons command rest ih => exact ih ((repo.advances_step command).engine current)

/-- The rule carries the priority that the rule with its number has by default. -/
def HasDefaultPriority (r : Rule) : Prop :=
  ∃ n, r.id = numberedId n ∧ r.priority = defaultPriority n

/-- Whatever the state, the search for the number of a new rule ends after as many steps as there are
    rules, at the latest, and at the least free number above the counter; a rule that is added has
    this number, and the priority that goes with it if no other one is asked for. In a run of any
    commands, failing ones included, the numbers of the added rules grow and their default priorities
    fall. Of the rules with the ids of added ones, those that carry their default priorities at the end
    of the run are considered in the order in which they were added. -/
theorem rules_considered_in_order_of_creation (repo : Repository) (commands : List Command) :
    (∃ passed ≤ repo.ruleSet.rules.length,
      Seeks repo.ruleSet.ids passed (repo.counter + 1) repo.nextNumber) ∧
    IsLeast {n | repo.counter < n ∧ numberedId n ∉ repo.ruleSet.ids} repo.nextNumber ∧
    (∀ edit r, repo.answer (.addRule edit) = .ok (.rule r) → r.id = numberedId repo.nextNumber ∧
      (edit.priority = none → r.priority = defaultPriority repo.nextNumber)) ∧
    (∃ numbers : List Nat, (repo.added commands).map (·.id) = numbers.map numberedId ∧
      numbers.Pairwise (· < ·) ∧ (numbers.map defaultPriority).Pairwise (· > ·)) ∧
    (repo.engine = .ofRuleSet repo.ruleSet → ∀ r s, [r, s].Sublist (repo.added commands) →
      ∀ a ∈ (repo.after commands).ruleSet.rules, ∀ b ∈ (repo.after commands).ruleSet.rules,
        a.id = r.id → b.id = s.id → HasDefaultPriority a → HasDefaultPriority b →
          [a, b].Sublist (repo.after commands).engine.ordered) := by
  refine ⟨repo.seeks_nextNumber, repo.isLeast_nextNumber, ?_, ?_, ?_⟩
  · intro edit r answered
    exact ⟨id_of_added answered, priority_of_newRule (step_of_added answered).1⟩
  · obtain ⟨numbers, named, grow⟩ := repo.numbers_added commands
    exact ⟨numbers, named, grow.of_cons,
      List.pairwise_map.mpr (grow.of_cons.imp defaultPriority_lt)⟩
  · rintro current r s pair a memberA b memberB sameA sameB ⟨m, idA, priorityA⟩ ⟨n, idB, priorityB⟩
    obtain ⟨m', n', idR, idS, less⟩ :=
      List.pairwise_iff_forall_sublist.mp (repo.added_pairwise commands) pair
    obtain rfl : m = m' := numberedId_injective (idA.symm.trans (sameA.trans idR))
    obtain rfl : n = n' := numberedId_injective (idB.symm.trans (sameB.trans idS))
    have lower : b.priority < a.priority := by
      rw [priorityA, priorityB]
      exact defaultPriority_lt less
    rw [engine_after current]
    exact Rule.sublist_inOrder memberA memberB lower

/-- After numbers one and three were loaded, rules get the numbers four and five: an edit that cannot
    be made takes no number, and neither does a deletion. The later rule is moved up to the front, and
    is still considered after the earlier one. -/
theorem moved_rule_considered_in_order_of_creation :
    let repo := ofRuleSet RuleSet.sparse
    let commands : List Command := [.addRule .nothing,
      .addRule { RuleEdit.nothing with priority := some (.text "high") },
      .deleteRule (.text "rule-1"), .addRule .nothing, .moveRule (.text "rule-5") (.int (-1)),
      .moveRule (.text "rule-5") (.int (-1))]
    ∃ a b : Rule, a.id = "rule-4" ∧ b.id = "rule-5" ∧
      (repo.after commands).ruleSet.rules.head? = some b ∧
      [a, b].Sublist (repo.after commands).engine.ordered := by
  intro repo commands
  let numbered (n : Nat) : Rule :=
    ⟨numberedId n, "Rule " ++ Text.ofNat n, defaultPriority n, [], [], .all⟩
  have rules : (repo.after commands).ruleSet.rules =
      [numbered 5, ⟨"rule-3", "rule-3", 0, [], [], .all⟩, numbered 4] := by decide +kernel
  have added : repo.added commands = [numbered 4, numbered 5] := by decide +kernel
  have inOrder := (rules_considered_in_order_of_creation repo commands).2.2.2.2 rfl
    (numbered 4) (numbered 5) (added ▸ List.Sublist.refl _)
    (numbered 4) (by simp [rules]) (numbered 5) (by simp [rules]) rfl rfl
    ⟨4, rfl, rfl⟩ ⟨5, rfl, rfl⟩
  exact ⟨numbered 4, numbered 5, by decide +kernel, by decide +kernel, by rw [rules]; rfl, inOrder⟩

end Repository

end UnitRouting
