import Mathlib.Data.List.Nodup
import UnitRouting.Json.Reader
import UnitRouting.Proofs.Outcome
import UnitRouting.Proofs.Text.Digits
import UnitRouting.Proofs.Value.Shown

/-! # What holds of whatever is read

A property that passes from the parts of lists and objects to the whole holds of every document that
is read, if it holds of the leaves. In an object that is read no two fields have the same name,
since a later field is put in the place of an earlier one. The induction is on the steps down that
reading takes. -/

namespace UnitRouting

open Outcome

/-- No two fields have the same name, and all values have a property. -/
structure Fields.Each (P : Value → Prop) (fields : Fields) : Prop where
  distinct : fields.names.Nodup
  values : ∀ field ∈ fields, P field.2

namespace Fields

variable {P : Value → Prop} {fields : Fields} {name : Text} {v : Value}

theorem mem_of_get? (found : fields.get? name = some v) : (name, v) ∈ fields := by
  induction fields with
  | nil => cases found
  | cons field rest ih =>
      obtain ⟨key, old⟩ := field
      simp only [get?] at found
      split at found
      · next same =>
          cases found
          exact same ▸ List.mem_cons_self
      · exact List.mem_cons_of_mem _ (ih found)

theorem mem_names_set {other : Text} :
    other ∈ (fields.set name v).names ↔ other ∈ fields.names ∨ other = name := by
  induction fields with
  | nil => simp [set, names]
  | cons field rest ih =>
      simp only [names] at ih
      by_cases here : field.1 = name
      · simp [set, names, here]
        tauto
      · simp [set, names, here, ih, or_assoc]

theorem Each.set (each : Each P fields) (holds : P v) (name : Text) :
    Each P (fields.set name v) := by
  induction fields with
  | nil => exact ⟨List.nodup_singleton _, List.forall_mem_singleton.mpr holds⟩
  | cons field rest ih =>
      obtain ⟨distinct, values⟩ := each
      simp only [names, List.map_cons, List.nodup_cons] at distinct
      obtain ⟨first, others⟩ := List.forall_mem_cons.mp values
      have later := ih ⟨distinct.2, others⟩
      by_cases here : field.1 = name
      · simp only [Fields.set, if_pos here]
        exact ⟨List.nodup_cons.mpr distinct, List.forall_mem_cons.mpr ⟨holds, others⟩⟩
      · simp only [Fields.set, if_neg here]
        refine ⟨List.nodup_cons.mpr ⟨?_, later.distinct⟩,
          List.forall_mem_cons.mpr ⟨first, later.values⟩⟩
        intro again
        rcases mem_names_set.mp again with old | same
        · exact distinct.1 old
        · exact here same

end Fields

namespace Json

theorem mem_of_constant? {t rest : Text} {v : Value} (read : constant? t = some (v, rest)) :
    ∃ name, (name, v) ∈ constants := by
  obtain ⟨⟨name, value⟩, known, found⟩ := List.exists_of_findSome?_eq_some read
  obtain ⟨after, -, same⟩ := Option.map_eq_some_iff.mp found
  cases same
  exact ⟨name, known⟩

theorem digitsValue_lt_numeralBound {digits : Text} (short : digits.length ≤ numeralLimit) :
    Text.digitsValue (Numeral.digitValues digits) < numeralBound := by
  have below := Text.digitsValue_lt (Text.digitValues_small (t := digits))
  have fewer : (Numeral.digitValues digits).length ≤ digits.length :=
    List.length_filterMap_le _ _
  exact Nat.lt_of_lt_of_le below (tenTo_le_tenTo (Nat.le_trans fewer short))

theorem cases_of_number? {t rest : Text} {v : Value}
    (read : number? (some numeralLimit) t = some (.ok (v, rest))) :
    (∃ n : Int, v = .int n ∧ n.natAbs < numeralBound) ∨ ∃ x, v = .float x := by
  simp only [number?, Option.map_eq_some_iff] at read
  obtain ⟨⟨whole, after⟩, -, read⟩ := read
  split at read
  · split at read
    · cases read
    · next short =>
        simp only [Except.ok.injEq, Prod.mk.injEq] at read
        obtain ⟨rfl, -⟩ := read
        have digits : whole.length ≤ numeralLimit := by simpa using short
        refine .inl ⟨_, rfl, ?_⟩
        rw [natAbs_signed]
        exact digitsValue_lt_numeralBound digits
  · cases read
    exact .inr ⟨_, rfl⟩

/-- The property holds of leaves, and of wholes if it holds of their parts. -/
structure Built (P : Value → Prop) : Prop where
  constant : ∀ entry ∈ constants, P entry.2
  int : ∀ n : Int, n.natAbs < numeralBound → P (.int n)
  float : ∀ x, P (.float x)
  text : ∀ t, P (.text t)
  list : ∀ items, (∀ item ∈ items, P item) → P (.list items)
  object : ∀ fields, Fields.Each P fields → P (.object fields)

/-- The property holds of what is read within so many steps down: of values, of items, and of fields
    behind ones of which it holds. -/
structure HoldsWithin (P : Value → Prop) (fuel : Nat) : Prop where
  value : ∀ t v rest, readValue (some numeralLimit) fuel t = .ok (v, rest) → P v
  items : ∀ t items rest, readItems (some numeralLimit) fuel t = .ok (items, rest) →
    ∀ item ∈ items, P item
  fields : ∀ acc t fields rest, Fields.Each P acc →
    readFields (some numeralLimit) fuel acc t = .ok (fields, rest) → Fields.Each P fields

namespace HoldsWithin

variable {P : Value → Prop} {fuel : Nat}

theorem value_succ (built : Built P) (within : HoldsWithin P fuel) {t rest : Text} {v : Value}
    (read : readValue (some numeralLimit) (fuel + 1) t = .ok (v, rest)) : P v := by
  cases t with
  | nil => cases read
  | cons c tail =>
      simp only [readValue] at read
      split at read
      · simp only [bind_eq_ok, Prod.exists, pure_ok, Except.ok.injEq, Prod.mk.injEq] at read
        obtain ⟨body, after, -, rfl, -⟩ := read
        exact built.text body
      split at read
      · split at read
        · cases read
        split at read
        · cases read
          exact built.object [] ⟨List.nodup_nil, nofun⟩
        · simp only [bind_eq_ok, Prod.exists, pure_ok, Except.ok.injEq, Prod.mk.injEq] at read
          obtain ⟨fields, after, inner, rfl, -⟩ := read
          exact built.object fields (within.fields [] _ fields after ⟨List.nodup_nil, nofun⟩ inner)
      split at read
      · split at read
        · cases read
        split at read
        · cases read
          exact built.list [] nofun
        · simp only [bind_eq_ok, Prod.exists, pure_ok, Except.ok.injEq, Prod.mk.injEq] at read
          obtain ⟨items, after, inner, rfl, -⟩ := read
          exact built.list items (within.items _ items after inner)
      split at read
      · next found =>
          cases read
          obtain ⟨name, known⟩ := mem_of_constant? found
          exact built.constant (name, v) known
      split at read
      · next found =>
          subst read
          rcases cases_of_number? found with ⟨n, rfl, short⟩ | ⟨x, rfl⟩
          · exact built.int n short
          · exact built.float x
      · cases read

theorem items_succ (within : HoldsWithin P fuel) {t rest : Text} {items : List Value}
    (read : readItems (some numeralLimit) (fuel + 1) t = .ok (items, rest)) :
    ∀ item ∈ items, P item := by
  simp only [readItems, bind_eq_ok, Prod.exists] at read
  obtain ⟨item, after, here, read⟩ := read
  have holds := within.value _ _ _ here
  split at read
  · cases read
  split at read
  · cases read
    exact List.forall_mem_singleton.mpr holds
  split at read
  · simp only [bind_eq_ok, Prod.exists, pure_ok, Except.ok.injEq, Prod.mk.injEq] at read
    obtain ⟨more, _, there, rfl, -⟩ := read
    exact List.forall_mem_cons.mpr ⟨holds, within.items _ _ _ there⟩
  · cases read

theorem fields_succ (within : HoldsWithin P fuel) {acc fields : Fields} {t rest : Text}
    (each : Fields.Each P acc)
    (read : readFields (some numeralLimit) (fuel + 1) acc t = .ok (fields, rest)) :
    Fields.Each P fields := by
  cases t with
  | nil => cases read
  | cons c tail =>
      simp only [readFields] at read
      split at read
      case isFalse => cases read
      simp only [bind_eq_ok, Prod.exists] at read
      obtain ⟨name, after, -, read⟩ := read
      split at read
      · cases read
      split at read
      case isFalse => cases read
      simp only [bind_eq_ok, Prod.exists] at read
      obtain ⟨v, behind, here, read⟩ := read
      have more := each.set (within.value _ _ _ here) name
      split at read
      · cases read
      split at read
      · cases read
        exact more
      split at read
      · exact within.fields _ _ _ _ more read
      · cases read

end HoldsWithin

theorem Built.holdsWithin {P : Value → Prop} (built : Built P) (fuel : Nat) :
    HoldsWithin P fuel := by
  induction fuel with
  | zero =>
      constructor
      · intro t v rest read
        cases read
      · intro t items rest read
        cases read
      · intro acc t fields rest each read
        cases read
  | succ fuel ih =>
      exact ⟨fun _ _ _ read => ih.value_succ built read, fun _ _ _ read => ih.items_succ read,
        fun _ _ _ _ each read => ih.fields_succ each read⟩

/-- What is built up from the leaves holds of every document. -/
theorem Built.of_read {P : Value → Prop} (built : Built P) {t : Text} {v : Value}
    (holds : read t = .ok v) : P v := by
  unfold read at holds
  split at holds
  · next document =>
      cases holds
      unfold readDocument at document
      split at document
      · cases document
      · simp only [bind_eq_ok, Prod.exists] at document
        obtain ⟨whole, rest, value, ended⟩ := document
        split at ended
        · cases ended
          exact (built.holdsWithin _).value _ _ _ value
        · cases ended
  · cases holds
  · cases holds

end Json

end UnitRouting
