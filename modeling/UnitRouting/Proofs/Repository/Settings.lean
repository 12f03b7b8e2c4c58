import UnitRouting.Proofs.Config.Canonical
import UnitRouting.Proofs.Rule.Selection

/-! # Settings that are saved and loaded

Authors may set the version and the default unit to any text. A configuration holds the text as it
is, but what is empty there is read as not given. So an empty setting comes back as the default of a
new rule set, and every context that no rule matches then goes to another unit. -/

namespace UnitRouting

open Outcome

namespace Engine

theorem unitId_of_unmatched {rs : RuleSet} {context : Fields} {e : Evaluation}
    (evaluated : (ofRuleSet rs).evaluate context = .ok e) (unmatched : e.winner = none) :
    e.unitId = rs.defaultUnitId := by
  obtain ⟨-, unit⟩ := evaluate_eq_ok.mp evaluated
  rwa [unmatched] at unit

theorem evaluate_of_no_rules {rs : RuleSet} (bare : rs.rules = []) (context : Fields) :
    (ofRuleSet rs).evaluate context = .ok ⟨rs.defaultUnitId, none, []⟩ := by
  have ordered : rs.ordered = [] := by rw [RuleSet.ordered, bare, Rule.inOrder, List.mergeSort_nil]
  refine evaluate_eq_ok.mpr ⟨?_, rfl⟩
  rw [ordered]
  rfl

theorem decision_eq_none {engine : Engine} {context : Fields} :
    engine.decision context = .ok none ↔
      ∃ e, engine.evaluate context = .ok e ∧ e.winner = none := by
  simp only [decision, map_eq_ok, Option.map_eq_none_iff, Evaluation.matchedRuleId]

end Engine

/-- What a configuration keeps matches no rule where the whole matches none. -/
theorem RuleSet.unmatched_kept {rs : RuleSet} {context : Fields} {e : Evaluation}
    (evaluated : (Engine.ofRuleSet rs).evaluate context = .ok e) (unmatched : e.winner = none) :
    ∃ e', (Engine.ofRuleSet rs.kept).evaluate context = .ok e' ∧ e'.winner = none := by
  have undecided : (Engine.ofRuleSet rs).decision context = .ok none :=
    Engine.decision_eq_none.mpr ⟨e, evaluated, unmatched⟩
  rw [← rs.decision_kept] at undecided
  exact Engine.decision_eq_none.mp undecided

theorem Repository.Reachable.wellFormed {repo : Repository}
    (reached : repo.Reachable RuleSet.Loaded Command.Authored) : repo.Sound Rule.WellFormed :=
  Rule.bears_wellFormed ▸ reached.bears fun _ => Condition.Made.wellFormed

/-- A repository that authors arrive at can be saved exactly if the priorities to be written are
    within the digit limit, and then it can be loaded again. Each setting comes back exactly if it is
    not empty, and with the default unit the unit of every context that no rule matches. -/
theorem settings_reload_iff_given {repo : Repository}
    (reached : repo.Reachable RuleSet.Loaded Command.Authored) :
    repo.ruleSet.prioritiesFit = true ↔
      ∃ text reloaded, repo.ruleSet.configText = .ok text ∧ RuleSet.parse text = .ok reloaded ∧
        (reloaded.version = repo.ruleSet.version ↔ repo.ruleSet.version ≠ []) ∧
        (reloaded.defaultUnitId = repo.ruleSet.defaultUnitId ↔ repo.ruleSet.defaultUnitId ≠ []) ∧
        ∀ context e, repo.engine.evaluate context = .ok e → e.winner = none →
          ∃ e', (Engine.ofRuleSet reloaded).evaluate context = .ok e' ∧ e'.winner = none ∧
            (e'.unitId = e.unitId ↔ repo.ruleSet.defaultUnitId ≠ []) := by
  have sound := reached.wellFormed
  constructor
  · intro fit
    have written := RuleSet.configText_eq_ok.mpr ⟨fit, rfl⟩
    refine ⟨_, repo.ruleSet.kept, written, RuleSet.parse_of_configText sound.rules written,
      RuleSet.version_kept_eq_iff, RuleSet.defaultUnitId_kept_eq_iff, ?_⟩
    intro context e evaluated unmatched
    rw [sound.engine] at evaluated
    obtain ⟨e', evaluated', unmatched'⟩ := RuleSet.unmatched_kept evaluated unmatched
    refine ⟨e', evaluated', unmatched', ?_⟩
    rw [Engine.unitId_of_unmatched evaluated unmatched,
      Engine.unitId_of_unmatched evaluated' unmatched']
    exact RuleSet.defaultUnitId_kept_eq_iff
  · rintro ⟨text, reloaded, written, -⟩
    exact (RuleSet.configText_eq_ok.mp written).1

/-- The version is set and the default unit is cleared: the one comes back, the other does not. -/
theorem settings_reload_after_clearing_unit :
    let repo := (Repository.empty.step (.setVersion (.text "2.1"))).step
      (.setDefaultUnitId (.text []))
    ∃ text reloaded, repo.ruleSet.configText = .ok text ∧ RuleSet.parse text = .ok reloaded ∧
      reloaded.version = repo.ruleSet.version ∧
      reloaded.defaultUnitId ≠ repo.ruleSet.defaultUnitId := by
  intro repo
  have reached : repo.Reachable RuleSet.Loaded Command.Authored :=
    .step (.step (.start (.inl rfl)) trivial) trivial
  obtain ⟨text, reloaded, written, parsed, version, unit, -⟩ :=
    (settings_reload_iff_given reached).mp rfl
  refine ⟨text, reloaded, written, parsed, version.mpr (List.cons_ne_nil _ _), ?_⟩
  intro same
  exact unit.mp same rfl

/-- A context goes to no unit in the empty repository with its default unit cleared, and to the
    fallback unit once that repository has been saved and loaded. -/
theorem cleared_unit_reloads_as_fallback :
    let repo := Repository.empty.step (.setDefaultUnitId (.text []))
    repo.Reachable RuleSet.Loaded Command.Authored ∧
    ∃ text reloaded, repo.ruleSet.configText = .ok text ∧ RuleSet.parse text = .ok reloaded ∧
      repo.ruleSet.defaultUnitId = [] ∧ reloaded.defaultUnitId = "nra-default-unit" ∧
      repo.engine.evaluate [] = .ok ⟨[], none, []⟩ ∧
      (Engine.ofRuleSet reloaded).evaluate [] = .ok ⟨"nra-default-unit", none, []⟩ := by
  intro repo
  have reached : repo.Reachable RuleSet.Loaded Command.Authored := .step (.start (.inl rfl)) trivial
  have written := RuleSet.configText_eq_ok.mpr ⟨show repo.ruleSet.prioritiesFit = true from rfl, rfl⟩
  have parsed := RuleSet.parse_of_configText reached.wellFormed.rules written
  exact ⟨reached, _, repo.ruleSet.kept, written, parsed, rfl, rfl,
    Engine.evaluate_of_no_rules rfl [], Engine.evaluate_of_no_rules rfl []⟩

end UnitRouting
