import UnitRouting.Rule.Engine

/-! # The order of consideration

Rules are considered by descending priority, and rules of one priority in their authored order.
Rules are paired with their positions here: the order of the pairs is strict, which the order by
priority alone is not. -/

namespace UnitRouting

/-- A rule and its position in the authored list. -/
abbrev PlacedRule := Rule × Nat

namespace Rule

theorem priority_trans (a b c : Rule) (ab : decide (b.priority ≤ a.priority) = true)
    (bc : decide (c.priority ≤ b.priority) = true) : decide (c.priority ≤ a.priority) = true := by
  simp only [decide_eq_true_eq] at ab bc ⊢
  omega

theorem priority_total (a b : Rule) :
    (decide (b.priority ≤ a.priority) || decide (a.priority ≤ b.priority)) = true := by
  simp only [Bool.or_eq_true, decide_eq_true_eq]
  omega

end Rule

/-- The one rule is considered before the other. -/
def PlacedRule.Precedes (a b : PlacedRule) : Prop :=
  b.1.priority < a.1.priority ∨ (b.1.priority = a.1.priority ∧ a.2 < b.2)

namespace RuleSet

/-- The rules with their positions, in the order in which they are considered. -/
def ranked (rs : RuleSet) : List PlacedRule :=
  rs.rules.zipIdx.mergeSort (List.zipIdxLE fun a b => decide (b.priority ≤ a.priority))

theorem ranked_map_fst (rs : RuleSet) : rs.ranked.map (·.1) = rs.ordered :=
  List.mergeSort_zipIdx

theorem ranked_perm (rs : RuleSet) : rs.ranked.Perm rs.rules.zipIdx :=
  List.mergeSort_perm _ _

theorem mem_ranked {rs : RuleSet} {r : Rule} {i : Nat} :
    (r, i) ∈ rs.ranked ↔ rs.rules[i]? = some r := by
  rw [rs.ranked_perm.mem_iff]
  exact List.mk_mem_zipIdx_iff_getElem?

/-- No position occurs twice, which makes the order of the pairs strict. -/
theorem ranked_positions_ne (rs : RuleSet) : rs.ranked.Pairwise fun a b => a.2 ≠ b.2 := by
  have positions : (rs.rules.zipIdx.map (·.2)).Nodup := by
    rw [List.zipIdx_map_snd]
    exact List.nodup_range'
  have placed : (rs.ranked.map (·.2)).Nodup := (rs.ranked_perm.map (·.2)).nodup_iff.mpr positions
  exact List.pairwise_map.mp placed

theorem ranked_pairwise (rs : RuleSet) : rs.ranked.Pairwise PlacedRule.Precedes := by
  have sorted : rs.ranked.Pairwise fun a b =>
      List.zipIdxLE (fun a b : Rule => decide (b.priority ≤ a.priority)) a b = true := by
    apply List.pairwise_mergeSort
    · exact List.zipIdxLE_trans Rule.priority_trans
    · exact List.zipIdxLE_total Rule.priority_total
  refine (sorted.and rs.ranked_positions_ne).imp ?_
  intro a b ⟨le, ne⟩
  simp only [List.zipIdxLE, decide_eq_true_eq] at le
  simp only [PlacedRule.Precedes]
  split at le
  · split at le
    · simp only [decide_eq_true_eq] at le
      omega
    · omega
  · contradiction

end RuleSet

namespace Rule

theorem inOrder_pairwise (rules : List Rule) :
    (inOrder rules).Pairwise fun a b => b.priority ≤ a.priority := by
  apply (List.pairwise_mergeSort priority_trans priority_total rules).imp
  intro a b le
  exact of_decide_eq_true le

theorem inOrder_of_pairwise {rules : List Rule}
    (descending : rules.Pairwise fun a b => b.priority ≤ a.priority) : inOrder rules = rules := by
  apply List.mergeSort_of_pairwise
  exact descending.imp fun le => decide_eq_true le

/-- Of two rules, the one with the higher priority comes first. -/
theorem sublist_inOrder {rules : List Rule} {a b : Rule} (first : a ∈ rules) (second : b ∈ rules)
    (lower : b.priority < a.priority) : [a, b].Sublist (inOrder rules) := by
  have listed {r : Rule} (member : r ∈ rules) : r ∈ inOrder rules := List.mem_mergeSort.mpr member
  obtain ⟨above, below, split⟩ := List.append_of_mem (listed first)
  have sorted := inOrder_pairwise rules
  have member := listed second
  rw [split] at sorted member ⊢
  have behind : b ∈ below := by
    rcases List.mem_append.mp member with before | here
    · have higher := (List.pairwise_append.mp sorted).2.2 b before a List.mem_cons_self
      omega
    · rcases List.mem_cons.mp here with rfl | behind
      · omega
      · exact behind
  exact (List.cons_sublist_cons.mpr (List.singleton_sublist.mpr behind)).trans
    (List.sublist_append_right above _)

theorem inOrder_cons (r : Rule) (rules : List Rule) :
    ∃ above below, inOrder (r :: rules) = above ++ r :: below ∧ inOrder rules = above ++ below ∧
      (∀ s ∈ above, r.priority < s.priority) ∧ ∀ s ∈ below, s.priority ≤ r.priority := by
  obtain ⟨above, below, sorted, rest, notBelow⟩ :=
    List.mergeSort_cons priority_trans priority_total r rules
  refine ⟨above, below, sorted, rest, ?_, ?_⟩
  · intro s member
    have higher := notBelow s member
    simp only [Bool.not_eq_true', decide_eq_false_iff_not] at higher
    omega
  · have pairs := inOrder_pairwise (r :: rules)
    rw [inOrder, sorted] at pairs
    intro s member
    exact (List.pairwise_cons.mp (List.pairwise_append.mp pairs).2.1).1 s member

theorem split_unique {p : Int} {above below above' below' : List Rule}
    (same : above ++ below = above' ++ below')
    (higher : ∀ s ∈ above, p < s.priority) (lower : ∀ s ∈ below, s.priority ≤ p)
    (higher' : ∀ s ∈ above', p < s.priority) (lower' : ∀ s ∈ below', s.priority ≤ p) :
    above = above' ∧ below = below' := by
  have front {above below : List Rule} (higher : ∀ s ∈ above, p < s.priority)
      (lower : ∀ s ∈ below, s.priority ≤ p) :
      (above ++ below).filter (fun s => decide (p < s.priority)) = above := by
    have all : above.filter (fun s => decide (p < s.priority)) = above :=
      List.filter_eq_self.mpr fun s member => decide_eq_true (higher s member)
    have none : below.filter (fun s => decide (p < s.priority)) = [] := by
      refine List.filter_eq_nil_iff.mpr fun s member => ?_
      simpa using lower s member
    rw [List.filter_append, all, none, List.append_nil]
  have first : above = above' := by
    rw [← front higher lower, same, front higher' lower']
  exact ⟨first, List.append_cancel_left (first ▸ same)⟩

theorem inOrder_filter (keep : Rule → Bool) (rules : List Rule) :
    inOrder (rules.filter keep) = (inOrder rules).filter keep := by
  induction rules with
  | nil => simp only [inOrder, List.filter_nil, List.mergeSort_nil]
  | cons r rest ih =>
      obtain ⟨above, below, whole, sorted, higher, lower⟩ := inOrder_cons r rest
      cases kept : keep r with
      | false => simp [ih, whole, sorted, kept]
      | true =>
          obtain ⟨above', below', whole', sorted', higher', lower'⟩ :=
            inOrder_cons r (rest.filter keep)
          have split : above' ++ below' = above.filter keep ++ below.filter keep := by
            rw [← sorted', ih, sorted, List.filter_append]
          obtain ⟨rfl, rfl⟩ := split_unique split higher' lower'
            (fun s member => higher s (List.mem_filter.mp member).1)
            (fun s member => lower s (List.mem_filter.mp member).1)
          rw [List.filter_cons, if_pos kept, whole', whole, List.filter_append, List.filter_cons,
            if_pos kept]

end Rule

end UnitRouting
