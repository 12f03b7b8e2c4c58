import Mathlib.Data.List.Forall2

/-! # Outcomes

When computations that may meet a fault succeed: one after the other, and one for each item of a
list; and what can be said of a computation whether or not it succeeds. -/

namespace UnitRouting.Outcome

variable {ε ε' α β : Type}

@[simp]
theorem bind_ok (a : α) (f : α → Except ε β) : (Except.ok a >>= f) = f a := rfl

@[simp]
theorem bind_error (e : ε) (f : α → Except ε β) : (Except.error e >>= f) = .error e := rfl

@[simp]
theorem pure_ok (a : α) : (pure a : Except ε α) = .ok a := rfl

theorem bind_eq_ok {x : Except ε α} {f : α → Except ε β} {b : β} :
    (x >>= f) = .ok b ↔ ∃ a, x = .ok a ∧ f a = .ok b := by
  cases x <;> simp

@[simp]
theorem map_eq_ok {x : Except ε α} {f : α → β} {b : β} :
    x.map f = .ok b ↔ ∃ a, x = .ok a ∧ f a = b := by
  cases x <;> simp [Except.map]

theorem bind_eq_error {x : Except ε α} {f : α → Except ε β} {e : ε} :
    (x >>= f) = .error e ↔ x = .error e ∨ ∃ a, x = .ok a ∧ f a = .error e := by
  cases x <;> simp

@[simp]
theorem map_eq_error {x : Except ε α} {f : α → β} {e : ε} :
    x.map f = .error e ↔ x = .error e := by
  cases x <;> simp [Except.map]

@[simp]
theorem mapError_eq_ok {result : Except ε α} {name : ε → ε'} {a : α} :
    result.mapError name = .ok a ↔ result = .ok a := by
  cases result with
  | ok b => simp only [Except.mapError, Except.ok.injEq]
  | error e => simp only [Except.mapError, reduceCtorEq]

theorem mapError_eq_error {result : Except ε α} {name : ε → ε'} {e : ε'} :
    result.mapError name = .error e ↔ ∃ cause, result = .error cause ∧ name cause = e := by
  cases result with
  | ok b => simp only [Except.mapError, reduceCtorEq, false_and, exists_false]
  | error cause => simp only [Except.mapError, Except.error.injEq, exists_eq_left']

theorem exists_of_isOk {x : Except ε α} (succeeds : x.isOk = true) : ∃ a, x = .ok a := by
  cases x with
  | ok a => exact ⟨a, rfl⟩
  | error e => cases succeeds

theorem mapM_eq_ok {f : α → Except ε β} {items : List α} {results : List β} :
    items.mapM f = .ok results ↔
      List.Forall₂ (fun item result => f item = .ok result) items results := by
  induction items generalizing results with
  | nil => simp only [List.mapM_nil, pure_ok, Except.ok.injEq, List.forall₂_nil_left_iff, eq_comm]
  | cons item rest ih =>
      simp only [List.mapM_cons, bind_eq_ok, pure_ok, Except.ok.injEq, List.forall₂_cons_left_iff]
      constructor
      · rintro ⟨result, here, tail, there, rfl⟩
        exact ⟨result, tail, here, ih.mp there, rfl⟩
      · rintro ⟨result, tail, here, there, rfl⟩
        exact ⟨result, here, tail, ih.mpr there, rfl⟩

theorem exists_of_mem_mapM {f : α → Except ε β} {items : List α} {results : List β}
    (all : items.mapM f = .ok results) {result : β} (member : result ∈ results) :
    ∃ item ∈ items, f item = .ok result := by
  obtain ⟨place, inside, rfl⟩ := List.getElem_of_mem member
  have pairs := mapM_eq_ok.mp all
  have insideItems : place < items.length := by rwa [pairs.length_eq]
  exact ⟨items[place], List.getElem_mem insideItems, pairs.get insideItems inside⟩

theorem mapM_succeeds {f : α → Except ε β} {items : List α}
    (each : ∀ item ∈ items, ∃ result, f item = .ok result) :
    ∃ results, items.mapM f = .ok results := by
  induction items with
  | nil => exact ⟨[], rfl⟩
  | cons item rest ih =>
      obtain ⟨result, here⟩ := each item List.mem_cons_self
      obtain ⟨results, there⟩ := ih fun other member => each other (List.mem_cons_of_mem item member)
      exact ⟨result :: results, by simp [List.mapM_cons, here, there]⟩

theorem mapM_fails_iff {f : α → Except ε β} {items : List α} :
    (∃ e, items.mapM f = .error e) ↔ ∃ item ∈ items, ∃ e, f item = .error e := by
  induction items with
  | nil => simp
  | cons item rest ih =>
      simp only [List.mapM_cons, bind_eq_error, pure_ok, reduceCtorEq, and_false, exists_false,
        or_false, List.mem_cons, exists_eq_or_imp, ← ih]
      cases f item <;> simp

theorem mapM_congr {f g : α → Except ε β} {items : List α}
    (same : ∀ item ∈ items, f item = g item) : items.mapM f = items.mapM g := by
  induction items with
  | nil => rfl
  | cons item rest ih =>
      obtain ⟨here, later⟩ := List.forall_mem_cons.mp same
      rw [List.mapM_cons, List.mapM_cons, here, ih later]

/-- The result is good, or the fault is harmless. -/
inductive Settles (harmless : ε → Prop) (good : α → Prop) : Except ε α → Prop where
  | ok {a : α} (here : good a) : Settles harmless good (.ok a)
  | error {e : ε} (here : harmless e) : Settles harmless good (.error e)

namespace Settles

variable {harmless harmless' : ε → Prop} {good good' : α → Prop} {x : Except ε α}

theorem of_ok (settles : Settles harmless good x) {a : α} (h : x = .ok a) : good a := by
  subst h
  cases settles with
  | ok here => exact here

theorem of_error (settles : Settles harmless good x) {e : ε} (h : x = .error e) : harmless e := by
  subst h
  cases settles with
  | error here => exact here

theorem imp (settles : Settles harmless good x) (results : ∀ a, good a → good' a)
    (faults : ∀ e, harmless e → harmless' e) : Settles harmless' good' x := by
  cases settles with
  | ok here => exact .ok (results _ here)
  | error here => exact .error (faults _ here)

theorem weaken (settles : Settles harmless good x) (faults : ∀ e, harmless e → harmless' e) :
    Settles harmless' good x :=
  settles.imp (fun _ here => here) faults

theorem bind {f : α → Except ε β} {later : β → Prop} (first : Settles harmless good x)
    (next : ∀ a, good a → Settles harmless later (f a)) : Settles harmless later (x >>= f) := by
  cases first with
  | ok here => exact next _ here
  | error here => exact .error here

theorem map {f : α → β} {later : β → Prop} (settles : Settles harmless good x)
    (next : ∀ a, good a → later (f a)) : Settles harmless later (x.map f) := by
  cases settles with
  | ok here => exact .ok (next _ here)
  | error here => exact .error here

/-- A result may be remembered with where it comes from. -/
theorem and_ok (settles : Settles harmless good x) :
    Settles harmless (fun a => x = .ok a ∧ good a) x := by
  cases settles with
  | ok here => exact .ok ⟨rfl, here⟩
  | error here => exact .error here

theorem mapM {f : α → Except ε β} {items : List α}
    (each : ∀ item ∈ items, Settles harmless (fun _ => True) (f item)) :
    Settles harmless (fun _ => True) (items.mapM f) := by
  induction items with
  | nil => exact .ok trivial
  | cons item rest ih =>
      rw [List.mapM_cons]
      apply (each item List.mem_cons_self).bind
      intro _ _
      exact (ih fun other member => each other (List.mem_cons_of_mem item member)).bind
        fun _ _ => .ok trivial

end Settles

end UnitRouting.Outcome
