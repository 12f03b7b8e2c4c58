import UnitRouting.Proofs.Config.RoundTrip
import UnitRouting.Proofs.Repository.Printable
import UnitRouting.Proofs.Repository.Reachable
import UnitRouting.Proofs.Value.Given

/-! # Canonical texts

Whatever a configuration leaves out or reshapes, it does so once: what it keeps is built the same way
again. The settings are the exception, since an empty one is read as the default; but a loaded rule
set has no empty ones. So loading a text and writing it again gives a text that stays as it is. -/

namespace UnitRouting

open Outcome

theorem Condition.build?_kept (c : Condition) : c.kept.build? = c.build? := rfl

namespace Rule

theorem filterMap_build?_kept (r : Rule) :
    r.kept.conditions.filterMap Condition.build? = r.conditions.filterMap Condition.build? := by
  have each : Condition.build? ∘ Condition.kept = Condition.build? :=
    funext Condition.build?_kept
  have valid : r.validConditions.filter Condition.isValid = r.validConditions :=
    List.filter_eq_self.mpr fun c member => (List.mem_filter.mp member).2
  have conditions : r.kept.conditions = r.validConditions.map Condition.kept := rfl
  rw [conditions, List.filterMap_map, each, Condition.filterMap_build?, valid,
    Condition.filterMap_build?]
  rfl

/-- The combinator is written only where several conditions need it, and there it is kept. -/
theorem buildConditions?_kept (r : Rule) : r.kept.buildConditions? = r.buildConditions? := by
  have clauses : r.conditions.filterMap Condition.build? = r.validConditions.map Condition.clause :=
    Condition.filterMap_build? r.conditions
  rw [buildConditions?, buildConditions?, filterMap_build?_kept, clauses, kept]
  cases r.validConditions with
  | nil => rfl
  | cons c rest => cases rest <;> rfl

theorem build?_kept (r : Rule) : r.kept.build? = r.build? := by
  have name : (if r.kept.name.isEmpty then r.kept.id else r.kept.name) =
      if r.name.isEmpty then r.id else r.name := by
    simp only [kept]
    split
    · exact ite_self _
    · rfl
  simp only [build?, buildConditions?_kept, name]
  rfl

end Rule

namespace RuleSet

variable {rs : RuleSet}

theorem rules_build_kept (rs : RuleSet) :
    rs.kept.rules.filterMap Rule.build? = rs.rules.filterMap Rule.build? := by
  have each : Rule.build? ∘ Rule.kept = Rule.build? := funext Rule.build?_kept
  have kept : rs.kept.rules = (rs.rules.filter Rule.isEvaluable).map Rule.kept := rfl
  rw [kept, List.filterMap_map, each]
  induction rs.rules with
  | nil => rfl
  | cons r rest ih =>
      have evaluable := Rule.isSome_build? r
      cases built : r.build? <;>
        simp only [built, Option.isSome_none, Option.isSome_some] at evaluable <;>
        simp only [List.filter_cons, ← evaluable, List.filterMap_cons, built, ih, if_true,
          Bool.false_eq_true, if_false]

theorem build_kept (version : rs.version ≠ []) (defaultUnitId : rs.defaultUnitId ≠ []) :
    rs.kept.build = rs.build := by
  simp only [build, version_kept_eq_iff.mpr version, defaultUnitId_kept_eq_iff.mpr defaultUnitId,
    rules_build_kept]

theorem prioritiesFit_iff : rs.prioritiesFit = true ↔
    ∀ r ∈ rs.rules, r.isEvaluable = true → r.priority.natAbs < numeralBound := by
  simp only [prioritiesFit, List.all_eq_true, Bool.or_eq_true, decide_eq_true_eq,
    ← Rule.isSome_build?]
  refine forall₂_congr fun r _ => ?_
  cases r.build? <;> simp

theorem prioritiesFit_kept (fit : rs.prioritiesFit = true) : rs.kept.prioritiesFit = true := by
  refine prioritiesFit_iff.mpr fun r member _ => ?_
  obtain ⟨s, given, rfl⟩ := List.mem_map.mp member
  exact prioritiesFit_iff.mp fit s (List.mem_filter.mp given).1 (List.mem_filter.mp given).2

/-- Rules that are left out need no priority that can be written. -/
theorem plain_build_of_prioritiesFit (fit : rs.prioritiesFit = true) : rs.build.Plain := by
  let written : RuleSet := { rs with rules := rs.kept.rules }
  have same : written.build = rs.build := by
    simp only [build, written, rules_build_kept]
  rw [← same]
  refine plain_build fun r member => ?_
  obtain ⟨s, given, rfl⟩ := List.mem_map.mp member
  exact prioritiesFit_iff.mp fit s (List.mem_filter.mp given).1 (List.mem_filter.mp given).2

theorem configText_eq_ok {text : Text} : rs.configText = .ok text ↔
    rs.prioritiesFit = true ∧ Json.Style.readable.write rs.build = text := by
  unfold configText
  split
  · next fit => simp only [Except.ok.injEq, fit, true_and]
  · next unfit => simp only [reduceCtorEq, unfit, false_and, Bool.false_eq_true]

/-- The text of a configuration loads as what the configuration keeps. -/
theorem parse_of_configText (sound : rs.Sound Rule.WellFormed) {text : Text}
    (written : rs.configText = .ok text) : parse text = .ok rs.kept := by
  obtain ⟨fit, rfl⟩ := configText_eq_ok.mp written
  rw [parse_written (plain_build_of_prioritiesFit fit)]
  exact load_build sound.distinct (fun r member => (sound.each r member).named)
    fun r member => (sound.each r member).conditions

end RuleSet

theorem Fields.textOr_ne_nil {fields : Fields} {name fallback t : Text} (filled : fallback ≠ [])
    (read : fields.textOr name fallback = .ok t) : t ≠ [] := by
  simp only [textOr] at read
  split at read
  · next given => exact Value.display_ne_nil given read
  · cases read
    exact filled

namespace RuleSet

theorem settings_of_parse {t : Text} {rs : RuleSet} (parsed : parse t = .ok rs) :
    rs.version ≠ [] ∧ rs.defaultUnitId ≠ [] := by
  simp only [parse, bind_eq_ok] at parsed
  obtain ⟨v, -, loaded⟩ := parsed
  cases v with
  | object fields =>
      simp only [load] at loaded
      split at loaded
      · next body found =>
          unfold loadBody at loaded
          split at loaded
          · simp only [bind_eq_ok, mapError_eq_ok] at loaded
            obtain ⟨rules, -, version, versionRead, defaultUnitId, defaultRead, made⟩ := loaded
            obtain ⟨-, rfl⟩ := create_eq_ok.mp made
            exact ⟨Fields.textOr_ne_nil (List.cons_ne_nil _ _) versionRead,
              Fields.textOr_ne_nil (List.cons_ne_nil _ _) defaultRead⟩
          · cases loaded
      · cases loaded
  | _ => cases loaded

/-- The text that a configuration text becomes when it is loaded and written again. -/
def canonicalText (t : Text) : Except Fault Text := do
  let rs ← parse t
  rs.configText

/-- A text that is accepted has a canonical text, which is accepted too and is its own canonical
    text. -/
theorem canonicalText_idempotent {t : Text} {rs : RuleSet} (accepted : parse t = .ok rs) :
    ∃ canonical, canonicalText t = .ok canonical ∧
      (∃ reloaded, parse canonical = .ok reloaded) ∧ canonicalText canonical = .ok canonical := by
  have sound := sound_of_parse accepted
  obtain ⟨version, defaultUnitId⟩ := settings_of_parse accepted
  have fit : rs.prioritiesFit = true :=
    prioritiesFit_iff.mpr fun r member _ => priorities_fit_of_parse accepted r member
  have written : rs.configText = .ok (Json.Style.readable.write rs.build) :=
    configText_eq_ok.mpr ⟨fit, rfl⟩
  have reloaded := parse_of_configText sound written
  have again : rs.kept.configText = .ok (Json.Style.readable.write rs.build) :=
    configText_eq_ok.mpr ⟨prioritiesFit_kept fit, by rw [build_kept version defaultUnitId]⟩
  refine ⟨Json.Style.readable.write rs.build, ?_, ⟨rs.kept, reloaded⟩, ?_⟩
  · rw [canonicalText, accepted, bind_ok, written]
  · rw [canonicalText, reloaded, bind_ok, again]

/-- A document of foreign shapes: a number for the version, a list for an id, a numeral for the
    priority, a single clause under a combinator, a number and blanks among the members. -/
theorem canonicalText_of_foreign_document :
    let clause : Value := .object [("field", .text "tier"), ("operator", .text " IN "),
      ("values", .list [.int 1, .text " b "])]
    let rule : Value := .object [("id", .list [.int 7]), ("priority", .text " 5 "),
      ("conditions", .object [("operator", .text "or"), ("clauses", .list [clause])]),
      ("result", .object [("unit_id", .bool true)])]
    let document : Value :=
      .object [(configRootKey, .object [("version", .int 2), ("rules", .list [rule])])]
    let text := Json.Style.readable.write document
    ∃ rs, parse text = .ok rs ∧ ∃ canonical, canonicalText text = .ok canonical ∧
      (∃ reloaded, parse canonical = .ok reloaded) ∧ canonicalText canonical = .ok canonical := by
  intro clause rule document text
  have digit {n : Nat} (below : n < tenTo 1) : n < numeralBound :=
    Nat.lt_of_lt_of_le below (tenTo_le_tenTo (by decide))
  have clausePlain : clause.Plain :=
    Value.plain_object ["field", "operator", "values"] rfl (by decide)
      ⟨trivial, trivial, ⟨digit (by decide), trivial, trivial⟩, trivial⟩
  have rulePlain : rule.Plain :=
    Value.plain_object ["id", "priority", "conditions", "result"] rfl (by decide)
      ⟨⟨digit (by decide), trivial⟩, trivial,
        Value.plain_object ["operator", "clauses"] rfl (by decide)
          ⟨trivial, ⟨clausePlain, trivial⟩, trivial⟩,
        Value.plain_object ["unit_id"] rfl (by decide) ⟨trivial, trivial⟩, trivial⟩
  have plain : document.Plain :=
    Value.plain_object ["unit_mapping_rules"] rfl (by decide)
      ⟨Value.plain_object ["version", "rules"] rfl (by decide)
        ⟨digit (by decide), ⟨rulePlain, trivial⟩, trivial⟩, trivial⟩
  obtain ⟨rs, loaded⟩ : ∃ rs, load document = .ok rs := exists_of_isOk (by decide +kernel)
  have accepted : parse text = .ok rs := by
    rw [parse_written plain, loaded]
  exact ⟨rs, accepted, canonicalText_idempotent accepted⟩

end RuleSet

end UnitRouting
