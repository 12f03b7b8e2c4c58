import UnitRouting.Proofs.Outcome
import UnitRouting.Value.Display

/-! # Values shown to people

The only thing that keeps a value from being shown is an integer beyond the digit limit somewhere
inside it. In particular no value is refused for an id that two rules have. -/

namespace UnitRouting

open Outcome

/-- The fault is that two rules of a set have the same id, found when it was made or loaded. -/
def Fault.isDuplicateId : Fault → Bool
  | .refused (.duplicateRuleId _) | .config (.refused (.duplicateRuleId _)) => true
  | _ => false

/-- The fault is another one than that two rules have the same id. -/
def Fault.Other (fault : Fault) : Prop := fault.isDuplicateId = false

namespace Fault

/-- What can go wrong where something is made of input: it is refused, though never for an id that two
    rules have. Only input that is not proper is of a kind without meaning, or has a number too long to
    be shown. -/
inductive OfInput (proper : Prop) : Fault → Prop where
  | refused {cause : Refusal} (other : (Fault.refused cause).Other) : OfInput proper (.refused cause)
  | numeralTooLong (improper : ¬ proper) : OfInput proper .numeralTooLong
  | wrongKind (improper : ¬ proper) : OfInput proper .wrongKind

/-- What an edit can meet: something is refused, though never for an id that two rules have, or it is
    not there. Only arguments that are not proper are of a kind without meaning, or have a number too
    long to be shown. -/
inductive Expected (proper : Prop) : Fault → Prop where
  | refused {cause : Refusal} (other : (Fault.refused cause).Other) : Expected proper (.refused cause)
  | ruleNotFound (id : Text) : Expected proper (.ruleNotFound id)
  | conditionNotFound (ruleId index : Text) : Expected proper (.conditionNotFound ruleId index)
  | numeralTooLong (improper : ¬ proper) : Expected proper .numeralTooLong
  | wrongKind (improper : ¬ proper) : Expected proper .wrongKind

variable {proper proper' : Prop} {fault : Fault}

theorem OfInput.imp (ofInput : OfInput proper fault) (needs : proper' → proper) :
    OfInput proper' fault := by
  cases ofInput with
  | refused other => exact .refused other
  | numeralTooLong improper => exact .numeralTooLong fun holds => improper (needs holds)
  | wrongKind improper => exact .wrongKind fun holds => improper (needs holds)

theorem OfInput.expected (ofInput : OfInput proper fault) : Expected proper fault := by
  cases ofInput with
  | refused other => exact .refused other
  | numeralTooLong improper => exact .numeralTooLong improper
  | wrongKind improper => exact .wrongKind improper

theorem Expected.other (expected : Expected proper fault) : fault.Other := by
  cases expected with
  | refused other => exact other
  | _ => rfl

theorem Expected.imp (expected : Expected proper fault) (needs : proper' → proper) :
    Expected proper' fault := by
  cases expected with
  | refused other => exact .refused other
  | ruleNotFound id => exact .ruleNotFound id
  | conditionNotFound ruleId index => exact .conditionNotFound ruleId index
  | numeralTooLong improper => exact .numeralTooLong fun holds => improper (needs holds)
  | wrongKind improper => exact .wrongKind fun holds => improper (needs holds)

end Fault

theorem Outcome.Settles.requiring {α : Type} {good : α → Prop} {x : Except Fault α}
    {proper proper' : Prop} (settles : Settles (Fault.OfInput proper) good x)
    (needs : proper' → proper) : Settles (Fault.OfInput proper') good x :=
  settles.weaken fun _ ofInput => ofInput.imp needs

theorem Outcome.Settles.needing {α : Type} {good : α → Prop} {x : Except Fault α}
    {proper proper' : Prop} (settles : Settles (Fault.Expected proper) good x)
    (needs : proper' → proper) : Settles (Fault.Expected proper') good x :=
  settles.weaken fun _ expected => expected.imp needs

theorem numeral_of_lt {n : Int} (fits : n.natAbs < numeralBound) :
    numeral n = .ok (Text.ofInt n) := by
  simp only [numeral, fits, if_true]

theorem numeral_of_le {n : Int} (long : numeralBound ≤ n.natAbs) :
    numeral n = .error .numeralTooLong := by
  simp only [numeral, Nat.not_lt.mpr long, if_false]

namespace Value

theorem numeral_settles (n : Int) : Settles (· = .numeralTooLong) (fun _ => True) (numeral n) := by
  rcases Nat.lt_or_ge n.natAbs numeralBound with fits | long
  · exact numeral_of_lt fits ▸ .ok trivial
  · exact numeral_of_le long ▸ .error rfl

mutual

theorem shown_settles (v : Value) : Settles (· = .numeralTooLong) (fun _ => True) v.shown := by
  cases v with
  | undefined | null | bool | float | text => exact .ok trivial
  | int n =>
      rw [shown]
      exact numeral_settles n
  | list items => exact (shownItems_settles items).bind fun _ _ => .ok trivial
  | object fields => exact (shownFields_settles fields).bind fun _ _ => .ok trivial
termination_by sizeOf v

theorem shownItems_settles (items : List Value) :
    Settles (· = .numeralTooLong) (fun _ => True) (shownItems items) := by
  cases items with
  | nil => exact .ok trivial
  | cons item rest =>
      exact (shown_settles item).bind fun _ _ => (shownItems_settles rest).bind fun _ _ => .ok trivial
termination_by sizeOf items

theorem shownFields_settles (fields : Fields) :
    Settles (· = .numeralTooLong) (fun _ => True) (shownFields fields) := by
  cases fields with
  | nil => exact .ok trivial
  | cons field rest =>
      cases field with | mk name v =>
      exact (shown_settles v).bind fun _ _ => (shownFields_settles rest).bind fun _ _ => .ok trivial
termination_by sizeOf fields

end

mutual

/-- All integers of the value are within the digit limit. -/
def Fits : Value → Prop
  | .int n => n.natAbs < numeralBound
  | .list items => FitsItems items
  | .object fields => FitsFields fields
  | _ => True

def FitsItems : List Value → Prop
  | [] => True
  | item :: rest => item.Fits ∧ FitsItems rest

def FitsFields : List (Text × Value) → Prop
  | [] => True
  | (_, value) :: rest => value.Fits ∧ FitsFields rest

end

theorem fitsItems_iff {items : List Value} : FitsItems items ↔ ∀ item ∈ items, item.Fits := by
  induction items with
  | nil => simp only [FitsItems, List.not_mem_nil, false_implies, implies_true]
  | cons item rest ih => simp only [FitsItems, ih, List.forall_mem_cons]

mutual

theorem shown_succeeds (v : Value) (fits : v.Fits) : ∃ t, v.shown = .ok t := by
  cases v with
  | undefined | null | bool | float | text => exact ⟨_, rfl⟩
  | int n => exact ⟨_, by rw [shown]; exact numeral_of_lt fits⟩
  | list items =>
      obtain ⟨parts, shown⟩ := shownItems_succeeds items fits
      exact ⟨_, by rw [Value.shown, shown]; rfl⟩
  | object fields =>
      obtain ⟨parts, shown⟩ := shownFields_succeeds fields fits
      exact ⟨_, by rw [Value.shown, shown]; rfl⟩
termination_by sizeOf v

theorem shownItems_succeeds (items : List Value) (fits : FitsItems items) :
    ∃ parts, shownItems items = .ok parts := by
  cases items with
  | nil => exact ⟨_, rfl⟩
  | cons item rest =>
      obtain ⟨part, here⟩ := shown_succeeds item fits.1
      obtain ⟨parts, there⟩ := shownItems_succeeds rest fits.2
      exact ⟨_, by rw [shownItems, here, there]; rfl⟩
termination_by sizeOf items

theorem shownFields_succeeds (fields : Fields) (fits : FitsFields fields) :
    ∃ parts, shownFields fields = .ok parts := by
  cases fields with
  | nil => exact ⟨_, rfl⟩
  | cons field rest =>
      cases field with | mk name v =>
      obtain ⟨part, here⟩ := shown_succeeds v fits.1
      obtain ⟨parts, there⟩ := shownFields_succeeds rest fits.2
      exact ⟨_, by rw [shownFields, here, there]; rfl⟩
termination_by sizeOf fields

end

theorem display_succeeds {v : Value} (fits : v.Fits) : ∃ t, v.display = .ok t := by
  unfold display
  split
  · exact ⟨_, rfl⟩
  · exact shown_succeeds v fits

theorem shown_ofInput (v : Value) : Settles (Fault.OfInput v.Fits) (fun _ => True) v.shown := by
  by_cases fits : v.Fits
  · obtain ⟨t, shown⟩ := shown_succeeds v fits
    rw [shown]
    exact .ok trivial
  · apply (shown_settles v).weaken
    rintro fault rfl
    exact .numeralTooLong fits

theorem display_ofInput (v : Value) : Settles (Fault.OfInput v.Fits) (fun _ => True) v.display := by
  unfold display
  split
  · exact .ok trivial
  · exact v.shown_ofInput

theorem display_expected (v : Value) : Settles (Fault.Expected v.Fits) (fun _ => True) v.display :=
  v.display_ofInput.weaken fun _ => Fault.OfInput.expected

end Value

end UnitRouting
