import UnitRouting.Proofs.Rule.Ranking

/-! # The same rules in another order

Only the order of rules of the same priority bears on an evaluation. Lists of the same rules with
those of each priority in the same order are sorted into the same list. -/

namespace UnitRouting

namespace Rule

/-- The rules of a priority, in their authored order. -/
def ofPriority (p : Int) (rules : List Rule) : List Rule := rules.filter (·.priority == p)

/-- The same rules, where rules of the same priority stand in the same order. -/
structure Reordered (rules rules' : List Rule) : Prop where
  perm : rules.Perm rules'
  ties : ∀ a b : Rule, a.priority = b.priority → [a, b].Sublist rules → [a, b].Sublist rules'

variable {rules rules' : List Rule} {p : Int}

theorem mem_ofPriority {r : Rule} : r ∈ ofPriority p rules ↔ r ∈ rules ∧ r.priority = p := by
  simp [ofPriority]

theorem eq_of_sublists (distinct : rules.Nodup) {a b : Rule} (before : [a, b].Sublist rules)
    (after : [b, a].Sublist rules) : a = b := by
  induction rules with
  | nil => cases before
  | cons r rest ih =>
      obtain ⟨new, later⟩ := List.nodup_cons.mp distinct
      cases before with
      | cons _ before =>
          cases after with
          | cons _ after => exact ih later before after
          | cons_cons _ after => exact absurd (before.subset (by simp)) new
      | cons_cons _ before =>
          cases after with
          | cons _ after => exact absurd (after.subset (by simp)) new
          | cons_cons => rfl

theorem Reordered.ofPriority_eq (reordered : Reordered rules rules') (distinct : rules.Nodup)
    (p : Int) : ofPriority p rules = ofPriority p rules' := by
  have distinct' : rules'.Nodup := reordered.perm.nodup_iff.mp distinct
  have kept : (ofPriority p rules).Pairwise fun a b => [a, b].Sublist rules' := by
    apply List.pairwise_iff_forall_sublist.mpr
    intro a b pair
    obtain ⟨-, first⟩ := mem_ofPriority.mp (pair.subset (by simp) : a ∈ ofPriority p rules)
    obtain ⟨-, second⟩ := mem_ofPriority.mp (pair.subset (by simp) : b ∈ ofPriority p rules)
    exact reordered.ties a b (first.trans second.symm) (pair.trans List.filter_sublist)
  have own : (ofPriority p rules').Pairwise fun a b => [a, b].Sublist rules' := by
    apply List.pairwise_iff_forall_sublist.mpr
    intro a b pair
    exact pair.trans List.filter_sublist
  apply List.Perm.eq_of_pairwise _ kept own (reordered.perm.filter _)
  intro a b _ _ before after
  exact eq_of_sublists distinct' before after

theorem reordered_of_distinct (distinct : rules.Pairwise fun a b => a.priority ≠ b.priority)
    (perm : rules.Perm rules') : Reordered rules rules' := by
  refine ⟨perm, ?_⟩
  intro a b same pair
  exact absurd same (List.pairwise_iff_forall_sublist.mp distinct pair)

theorem reordered_swap {a b : Rule} (apart : a.priority ≠ b.priority) (rest : List Rule) :
    Reordered (a :: b :: rest) (b :: a :: rest) := by
  refine ⟨List.Perm.swap b a rest, ?_⟩
  intro x y tie pair
  cases pair with
  | cons _ pair =>
      cases pair with
      | cons _ pair => exact .cons _ (.cons _ pair)
      | cons_cons _ pair => exact .cons_cons _ (.cons _ pair)
  | cons_cons _ pair =>
      cases pair with
      | cons _ pair => exact .cons _ (.cons_cons _ pair)
      | cons_cons => exact absurd tie apart

/-- Sorting is stable. -/
theorem ofPriority_inOrder (p : Int) (rules : List Rule) :
    ofPriority p (inOrder rules) = ofPriority p rules := by
  rw [ofPriority, ← inOrder_filter]
  apply inOrder_of_pairwise
  apply List.pairwise_of_forall_mem_list
  intro a memberA b memberB
  have first := (mem_ofPriority.mp memberA).2
  have second := (mem_ofPriority.mp memberB).2
  omega

theorem ofPriority_cons (p : Int) (r : Rule) (rules : List Rule) :
    ofPriority p (r :: rules) = if r.priority = p then r :: ofPriority p rules
      else ofPriority p rules := by
  simp [ofPriority, List.filter_cons]

theorem priority_le_head {r s : Rule}
    (sorted : (r :: rules).Pairwise fun a b => b.priority ≤ a.priority) (member : s ∈ r :: rules) :
    s.priority ≤ r.priority := by
  rcases List.mem_cons.mp member with rfl | later
  · exact Int.le_refl _
  · exact (List.pairwise_cons.mp sorted).1 s later

/-- A sorted list is determined by the rules that it has of each priority. -/
theorem eq_of_ofPriority (sorted : rules.Pairwise fun a b => b.priority ≤ a.priority)
    (sorted' : rules'.Pairwise fun a b => b.priority ≤ a.priority)
    (same : ∀ p, ofPriority p rules = ofPriority p rules') : rules = rules' := by
  induction rules generalizing rules' with
  | nil =>
      cases rules' with
      | nil => rfl
      | cons s rest' =>
          have none := same s.priority
          simp [ofPriority] at none
  | cons r rest ih =>
      cases rules' with
      | nil =>
          have none := same r.priority
          simp [ofPriority] at none
      | cons s rest' =>
          have there : r ∈ ofPriority r.priority (s :: rest') := by
            rw [← same]
            exact mem_ofPriority.mpr ⟨List.mem_cons_self, rfl⟩
          have here : s ∈ ofPriority s.priority (r :: rest) := by
            rw [same]
            exact mem_ofPriority.mpr ⟨List.mem_cons_self, rfl⟩
          have le : r.priority ≤ s.priority := priority_le_head sorted' (mem_ofPriority.mp there).1
          have ge : s.priority ≤ r.priority := priority_le_head sorted (mem_ofPriority.mp here).1
          have tie : s.priority = r.priority := Int.le_antisymm ge le
          have first := same r.priority
          rw [ofPriority_cons, ofPriority_cons, if_pos rfl, if_pos tie] at first
          obtain ⟨rfl, -⟩ := List.cons.inj first
          have tails (p : Int) : ofPriority p rest = ofPriority p rest' := by
            have both := same p
            rw [ofPriority_cons, ofPriority_cons] at both
            split at both
            · exact (List.cons.inj both).2
            · exact both
          rw [ih sorted.of_cons sorted'.of_cons tails]

theorem inOrder_eq_iff :
    inOrder rules = inOrder rules' ↔ ∀ p, ofPriority p rules = ofPriority p rules' := by
  constructor
  · intro same p
    rw [← ofPriority_inOrder, same, ofPriority_inOrder]
  · intro same
    apply eq_of_ofPriority (inOrder_pairwise rules) (inOrder_pairwise rules')
    intro p
    rw [ofPriority_inOrder, ofPriority_inOrder, same]

/-- The rules, each once, from the highest priority down; those of the same priority in their
    authored order. -/
structure Ordered (rules order : List Rule) : Prop where
  perm : order.Perm rules
  descending : order.Pairwise fun a b => b.priority ≤ a.priority
  ties : ∀ p, ofPriority p order = ofPriority p rules

theorem ordered_iff {order : List Rule} : Ordered rules order ↔ order = inOrder rules := by
  constructor
  · intro ordered
    apply eq_of_ofPriority ordered.descending (inOrder_pairwise rules)
    intro p
    rw [ordered.ties, ofPriority_inOrder]
  · rintro rfl
    exact ⟨List.mergeSort_perm _ _, inOrder_pairwise rules, fun p => ofPriority_inOrder p rules⟩

end Rule

end UnitRouting
