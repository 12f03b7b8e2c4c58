import UnitRouting.Proofs.Discovery
import UnitRouting.Proofs.Text.Order

/-! # Discovery finds every chain of names

In a sample without empty names and without dots in names, the segments of a path count the names that
lead to it. So discovery describes exactly the chains of at most four names, each once. The inductions
are on the sample; the one that compares discovery with chains carries how many more names a path may
grow by. -/

namespace UnitRouting

namespace Value

mutual

/-- The names of all fields, also of objects inside objects, are not empty and have no dot in them. -/
def Segmented : Value → Prop
  | .object fields => SegmentedFields fields
  | _ => True

def SegmentedFields : List (Text × Value) → Prop
  | [] => True
  | (name, v) :: rest =>
    (name ≠ [] ∧ CodePoint.ofChar '.' ∉ name) ∧ v.Segmented ∧ SegmentedFields rest

end

theorem segmentedFields_iff {fields : Fields} : SegmentedFields fields ↔
    ∀ field ∈ fields, (field.1 ≠ [] ∧ CodePoint.ofChar '.' ∉ field.1) ∧ field.2.Segmented := by
  induction fields with
  | nil => simp only [SegmentedFields, List.not_mem_nil, false_implies, implies_true]
  | cons field rest ih => simp only [SegmentedFields, ih, List.forall_mem_cons, and_assoc]

end Value

namespace Fields

/-- The one chain stands before the other when the fields of an object are gone through in order, and
    after each field those inside it. -/
inductive Precedes : Fields → List Text → List Text → Prop where
  | outer {fields : Fields} {name : Text} {rest : List Text} : Precedes fields [] (name :: rest)
  | earlier {fields : Fields} {name other : Text} {rest rest' : List Text}
      (before : [name, other].Sublist fields.names) :
      Precedes fields (name :: rest) (other :: rest')
  | inside {fields inner : Fields} {name : Text} {rest rest' : List Text}
      (found : fields.get? name = some (.object inner)) (later : Precedes inner rest rest') :
      Precedes fields (name :: rest) (name :: rest')

theorem orderly_of_get? {fields : Fields} (orderly : Value.OrderlyFields fields) {name : Text}
    {v : Value} (found : fields.get? name = some v) : v.Orderly :=
  Value.orderlyFields_iff.mp orderly _ (mem_of_get? found)

theorem Precedes.ne {fields : Fields} (orderly : (Value.object fields).Orderly) {c d : List Text}
    (precedes : Precedes fields c d) : c ≠ d := by
  induction precedes with
  | outer => exact (List.cons_ne_nil _ _).symm
  | earlier before =>
      rintro ⟨⟩
      exact List.nodup_iff_sublist.mp orderly.1 _ before
  | inside found _ ih =>
      intro same
      exact ih (orderly_of_get? orderly.2 found) (List.cons.inj same).2

/-- A chain of names with what it leads to, behind one more name. -/
def behind (name : Text) (found : List Text × Value) : List Text × Value :=
  (name :: found.1, found.2)

mutual

/-- The chains of one name and at most so many more, with what they lead to. -/
def chains : Nat → List (Text × Value) → List (List Text × Value)
  | _, [] => []
  | more, (name, v) :: rest =>
    ([name], v) :: ((chainsInside more v).map (behind name) ++ chains more rest)

/-- The chains of at most so many names through a value. -/
def chainsInside : Nat → Value → List (List Text × Value)
  | more, .object fields =>
    match more with
    | 0 => []
    | more + 1 => chains more fields
  | _, _ => []

end

theorem mem_behind {name other : Text} {rest : List Text} {w : Value}
    {found : List (List Text × Value)} :
    (other :: rest, w) ∈ found.map (behind name) ↔ other = name ∧ (rest, w) ∈ found := by
  simp only [List.mem_map, behind, Prod.mk.injEq, List.cons.injEq, Prod.exists]
  constructor
  · rintro ⟨chain, v, member, ⟨rfl, rfl⟩, rfl⟩
    exact ⟨rfl, member⟩
  · rintro ⟨rfl, member⟩
    exact ⟨rest, w, member, ⟨rfl, rfl⟩, rfl⟩

mutual

/-- The chains of a walk are all that lead to something. -/
theorem mem_chains {more : Nat} {chain : List Text} {w : Value} (fields : List (Text × Value))
    (distinct : (names fields).Nodup) (orderly : Value.OrderlyFields fields) :
    (chain, w) ∈ chains more fields ↔ chain ≠ [] ∧ chain.length ≤ more + 1 ∧
      (Value.object fields).follow chain = w ∧ w ≠ .undefined := by
  match fields with
  | [] =>
      cases chain with
      | nil => simp [chains]
      | cons n tail => simp [chains, Value.follow, get?, eq_comm]
  | (name, v) :: rest =>
      obtain ⟨new, distinct⟩ := List.nodup_cons.mp distinct
      have later : (chain, w) ∈ chains more rest ↔ _ := mem_chains rest distinct orderly.2
      cases chain with
      | nil => simp [chains, behind, later]
      | cons n tail =>
          have inside : (tail, w) ∈ chainsInside more v ↔ _ := mem_chainsInside v orderly.1
          simp only [chains, List.mem_cons, List.mem_append, mem_behind, Prod.mk.injEq,
            List.cons.injEq, inside, later]
          by_cases same : n = name
          · subst same
            have absent : get? n rest = none := get?_eq_none new
            cases tail with
            | nil =>
                have defined := orderly.1.ne_undefined
                simp [Value.follow, get?, absent]
                grind
            | cons next tail =>
                simp [Value.follow, get?, absent]
                grind
          · simp [Value.follow, get?, same, Ne.symm same]

theorem mem_chainsInside {more : Nat} {chain : List Text} {w : Value} (v : Value)
    (orderly : v.Orderly) : (chain, w) ∈ chainsInside more v ↔
      chain ≠ [] ∧ chain.length ≤ more ∧ v.follow chain = w ∧ w ≠ .undefined := by
  match v with
  | .object fields =>
      cases more with
      | zero =>
          simp [chainsInside]
          tauto
      | succ more => exact mem_chains fields orderly.1 orderly.2
  | .undefined | .null | .bool _ | .int _ | .float _ | .text _ | .list _ =>
      cases chain with
      | nil => simp [chainsInside]
      | cons n tail => simp [chainsInside, Value.follow, eq_comm]

end

theorem names_sublist {fields ambient : Fields} (part : fields.Sublist ambient) :
    (names fields).Sublist (names ambient) := part.map _

theorem object_of_mem_chainsInside {more : Nat} {v : Value} {found : List Text × Value}
    (inside : found ∈ chainsInside more v) : ∃ fields, v = .object fields := by
  cases v with
  | object fields => exact ⟨fields, rfl⟩
  | _ => cases inside

mutual

/-- A walk comes upon chains in depth-first order. -/
theorem chains_pairwise (more : Nat) (fields ambient : List (Text × Value))
    (part : fields.Sublist ambient) (distinct : (names ambient).Nodup)
    (orderly : Value.OrderlyFields fields) :
    (chains more fields).Pairwise fun a b => Precedes ambient a.1 b.1 := by
  match fields with
  | [] => exact .nil
  | (name, v) :: rest =>
      have member : (name, v) ∈ ambient := part.subset List.mem_cons_self
      have restPart : rest.Sublist ambient := (List.sublist_cons_self _ rest).trans part
      have later := chains_pairwise more rest ambient restPart distinct orderly.2
      have inside : ((chainsInside more v).map (behind name)).Pairwise
          fun a b => Precedes ambient a.1 b.1 := by
        rw [List.pairwise_map]
        apply (chainsInside_pairwise more v orderly.1).imp
        rintro a b ⟨inner, rfl, precedes⟩
        exact .inside (get?_of_mem distinct member) precedes
      have beyond (c d : List Text × Value) (tail : List Text) (first : c.1 = name :: tail)
          (second : d ∈ chains more rest) : Precedes ambient c.1 d.1 := by
        obtain ⟨chain, w⟩ := d
        have restDistinct : (names rest).Nodup := (names_sublist restPart).nodup distinct
        obtain ⟨nonempty, -, leads, defined⟩ := (mem_chains rest restDistinct orderly.2).mp second
        obtain ⟨other, tail', rfl⟩ := List.exists_cons_of_ne_nil nonempty
        have among : other ∈ names rest := by
          by_contra absent
          rw [Value.follow, get?_eq_none absent] at leads
          exact defined leads.symm
        rw [first]
        have both : [name, other].Sublist (names ((name, v) :: rest)) :=
          List.cons_sublist_cons.mpr (List.singleton_sublist.mpr among)
        exact .earlier (both.trans (names_sublist part))
      rw [chains, List.pairwise_cons, List.pairwise_append]
      refine ⟨?_, inside, later, ?_⟩
      · intro d among
        rcases List.mem_append.mp among with within | after
        · obtain ⟨⟨chain, w⟩, found, rfl⟩ := List.mem_map.mp within
          obtain ⟨nonempty, -⟩ := (mem_chainsInside v orderly.1).mp found
          obtain ⟨next, tail, rfl⟩ := List.exists_cons_of_ne_nil nonempty
          obtain ⟨inner, rfl⟩ := object_of_mem_chainsInside found
          exact .inside (get?_of_mem distinct member) .outer
        · exact beyond _ d [] rfl after
      · intro c within d after
        obtain ⟨found, -, rfl⟩ := List.mem_map.mp within
        exact beyond _ d found.1 rfl after

theorem chainsInside_pairwise (more : Nat) (v : Value) (orderly : v.Orderly) :
    (chainsInside more v).Pairwise fun a b =>
      ∃ inner, v = .object inner ∧ Precedes inner a.1 b.1 := by
  match v with
  | .object fields =>
      cases more with
      | zero => exact .nil
      | succ more =>
          apply (chains_pairwise more fields fields (.refl fields) orderly.1 orderly.2).imp
          intro a b precedes
          exact ⟨fields, rfl, precedes⟩
  | .undefined | .null | .bool _ | .int _ | .float _ | .text _ | .list _ => exact .nil

end

end Fields

theorem Text.splitOn_fieldPath {parent name : Text} (nonempty : parent ≠ [])
    (dotless : CodePoint.ofChar '.' ∉ name) :
    (fieldPath parent name).splitOn '.' = parent.splitOn '.' ++ [name] := by
  have longer : fieldPath parent name = parent ++ CodePoint.ofChar '.' :: name := by
    simp [fieldPath, nonempty, Text.ofString]
  rw [longer, splitOn_append, splitOn_of_not_mem dotless]

/-- Below a path, chains may have so many more names than one. -/
inductive Levels : Text → Nat → Prop where
  | root : Levels [] maxNesting
  | under {path : Text} {more : Nat} (nonempty : path ≠ [])
      (count : (path.splitOn '.').length + more = maxNesting) : Levels path more

namespace Levels

variable {path name : Text} {more : Nat}

theorem deeper_iff (levels : Levels path more) :
    (path.splitOn '.').length < maxNesting ↔ 0 < more := by
  cases levels with
  | root => decide
  | under nonempty count => omega

theorem next (levels : Levels path (more + 1))
    (segment : name ≠ [] ∧ CodePoint.ofChar '.' ∉ name) : Levels (fieldPath path name) more := by
  generalize total : more + 1 = n at levels
  cases levels with
  | root =>
      have first : fieldPath [] name = name := rfl
      refine .under segment.1 ?_
      rw [first, Text.splitOn_of_not_mem segment.2, List.length_singleton]
      omega
  | under nonempty count =>
      refine .under (by simp [fieldPath, nonempty]) ?_
      rw [Text.splitOn_fieldPath nonempty segment.2, List.length_append, List.length_singleton]
      omega

end Levels

/-- The description of what a chain of names leads to, from the object at a path on. -/
def FieldDescriptor.ofChain (parent : Text) (found : List Text × Value) : FieldDescriptor :=
  .ofValue (dottedPath parent found.1) found.2

open Fields in
mutual

theorem walkFields_eq_chains {parent : Text} {more : Nat} (levels : Levels parent more)
    (fields : List (Text × Value)) (segmented : Value.SegmentedFields fields) :
    walkFields parent fields = (chains more fields).map (.ofChain parent) := by
  match fields with
  | [] => rfl
  | (name, v) :: rest =>
      obtain ⟨segment, inside, later⟩ := segmented
      have below : (if (parent.splitOn '.').length < maxNesting then
          walkInto (fieldPath parent name) v else []) =
          ((chainsInside more v).map (behind name)).map (.ofChain parent) := by
        rw [List.map_map]
        cases more with
        | zero =>
            have deep := levels.deeper_iff
            rw [if_neg (by omega)]
            cases v <;> rfl
        | succ more =>
            rw [if_pos (levels.deeper_iff.mpr (Nat.succ_pos more))]
            exact walkInto_eq_chains (levels.next segment) v inside
      rw [walkFields, chains, below, walkFields_eq_chains levels rest later, List.map_cons,
        List.map_append]
      rfl

theorem walkInto_eq_chains {path : Text} {more : Nat} (levels : Levels path more) (v : Value)
    (segmented : v.Segmented) :
    walkInto path v = (chainsInside (more + 1) v).map (.ofChain path) := by
  match v with
  | .object fields => exact walkFields_eq_chains levels fields segmented
  | .undefined | .null | .bool _ | .int _ | .float _ | .text _ | .list _ => rfl

end

theorem Value.segmented_of_get? {fields : Fields} (segmented : SegmentedFields fields) {name : Text}
    {v : Value} (found : fields.get? name = some v) :
    (name ≠ [] ∧ CodePoint.ofChar '.' ∉ name) ∧ v.Segmented :=
  segmentedFields_iff.mp segmented _ (Fields.mem_of_get? found)

theorem Value.segments_of_follow {v : Value} (segmented : v.Segmented) {chain : List Text}
    (leads : v.follow chain ≠ .undefined) : ∀ n ∈ chain, n ≠ [] ∧ CodePoint.ofChar '.' ∉ n := by
  induction chain generalizing v with
  | nil => exact fun _ member => absurd member List.not_mem_nil
  | cons name rest ih =>
      cases v with
      | object fields =>
          cases found : Fields.get? name fields with
          | none => exact absurd (by rw [follow, found]) leads
          | some w =>
              rw [follow, found] at leads
              obtain ⟨segment, inside⟩ := segmented_of_get? segmented found
              exact List.forall_mem_cons.mpr ⟨segment, ih inside leads⟩
      | _ => exact absurd rfl leads

theorem dottedPath_of_segments {chain : List Text} (nonempty : chain ≠ [])
    (segments : ∀ n ∈ chain, n ≠ [] ∧ CodePoint.ofChar '.' ∉ n) :
    dottedPath [] chain = Text.join "." chain ∧ (Text.join "." chain).splitOn '.' = chain := by
  obtain ⟨name, rest, rfl⟩ := List.exists_cons_of_ne_nil nonempty
  exact ⟨dottedPath_of_ne (segments name List.mem_cons_self).1 rest,
    Text.splitOn_join_of_free fun n member => (segments n member).2⟩

theorem pairwise_mergeSort_of_pairwise {α : Type} {le : α → α → Bool} {R : α → α → Prop}
    (trans : ∀ a b c, le a b = true → le b c = true → le a c = true)
    (total : ∀ a b, (le a b || le b a) = true) {entries : List α} (ordered : entries.Pairwise R) :
    (entries.mergeSort le).Pairwise fun a b => le a b = true ∧ (le b a = true → R a b) := by
  let placed := entries.zipIdx.mergeSort (List.zipIdxLE le)
  have perm : placed.Perm entries.zipIdx := List.mergeSort_perm _ _
  have sorted : placed.Pairwise fun a b => List.zipIdxLE le a b = true :=
    List.pairwise_mergeSort (List.zipIdxLE_trans trans) (List.zipIdxLE_total total) _
  have apart : placed.Pairwise fun a b => a.2 ≠ b.2 := by
    have positions : (entries.zipIdx.map (·.2)).Nodup := by
      rw [List.zipIdx_map_snd]
      exact List.nodup_range'
    have placedPositions : (placed.map (·.2)).Nodup := (perm.map (·.2)).nodup_iff.mpr positions
    exact List.pairwise_map.mp placedPositions
  rw [← List.mergeSort_zipIdx, List.pairwise_map]
  refine (sorted.and apart).imp_of_mem ?_
  rintro ⟨a, i⟩ ⟨b, j⟩ memA memB ⟨before, ne⟩
  have placeA := List.mk_mem_zipIdx_iff_getElem?.mp (perm.mem_iff.mp memA)
  have placeB := List.mk_mem_zipIdx_iff_getElem?.mp (perm.mem_iff.mp memB)
  obtain ⟨insideA, rfl⟩ := List.getElem?_eq_some_iff.mp placeA
  obtain ⟨insideB, rfl⟩ := List.getElem?_eq_some_iff.mp placeB
  simp only [List.zipIdxLE] at before
  split at before
  · next below =>
      refine ⟨below, fun above => ?_⟩
      rw [if_pos above, decide_eq_true_eq] at before
      exact List.pairwise_iff_getElem.mp ordered i j insideA insideB (by omega)
  · cases before

namespace FieldDescriptor

theorem le_def (a b : FieldDescriptor) : a.le b =
    if a.displayName.fold = b.displayName.fold then Text.le a.displayName b.displayName
    else Text.le a.displayName.fold b.displayName.fold := rfl

theorem le_total (a b : FieldDescriptor) : (a.le b || b.le a) = true := by
  rw [le_def, le_def]
  by_cases same : a.displayName.fold = b.displayName.fold
  · rw [if_pos same, if_pos same.symm]
    exact Text.le_total _ _
  · rw [if_neg same, if_neg (Ne.symm same)]
    exact Text.le_total _ _

theorem le_trans (a b c : FieldDescriptor) (first : a.le b = true) (second : b.le c = true) :
    a.le c = true := by
  rw [le_def] at first second ⊢
  split at first <;> split at second
  · next same same' =>
      rw [if_pos (same.trans same')]
      exact Text.le_trans first second
  · next same apart => rwa [same, if_neg apart]
  · next apart same => rwa [← same, if_neg apart]
  · next apart apart' =>
      have ne : a.displayName.fold ≠ c.displayName.fold := by
        intro same
        rw [same] at first apart
        exact apart (Text.le_antisymm first second)
      rw [if_neg ne]
      exact Text.le_trans first second

end FieldDescriptor

/-- A chain is listed before another: by its display name without case, then by its display name, and
    in depth-first order where the two have the same display name. -/
inductive Listed (sample : Fields) (a b : List Text × Value) : Prop where
  | folded (apart : (displayName (Text.join "." a.1)).fold ≠ (displayName (Text.join "." b.1)).fold)
      (le : Text.le (displayName (Text.join "." a.1)).fold (displayName (Text.join "." b.1)).fold)
  | exact (same : (displayName (Text.join "." a.1)).fold = (displayName (Text.join "." b.1)).fold)
      (apart : displayName (Text.join "." a.1) ≠ displayName (Text.join "." b.1))
      (le : Text.le (displayName (Text.join "." a.1)) (displayName (Text.join "." b.1)))
  | tied (same : displayName (Text.join "." a.1) = displayName (Text.join "." b.1))
      (precedes : sample.Precedes a.1 b.1)

/-- The chains that discovery describes, with what they lead to, as it lists them. -/
def listedChains (sample : Fields) : List (List Text × Value) :=
  (Fields.chains maxNesting sample).mergeSort fun a b =>
    (FieldDescriptor.ofChain [] a).le (.ofChain [] b)

section Sample

variable {sample : Fields} {chain : List Text} {v : Value}

theorem mem_listedChains (orderly : (Value.object sample).Orderly) :
    (chain, v) ∈ listedChains sample ↔ 1 ≤ chain.length ∧ chain.length ≤ 4 ∧
      (Value.object sample).follow chain = v ∧ v ≠ .undefined := by
  have nonempty : 1 ≤ chain.length ↔ chain ≠ [] := List.length_pos_iff
  rw [listedChains, List.mem_mergeSort, Fields.mem_chains sample orderly.1 orderly.2, nonempty]
  rfl

theorem path_of_mem_listedChains (orderly : (Value.object sample).Orderly)
    (segmented : (Value.object sample).Segmented) (member : (chain, v) ∈ listedChains sample) :
    dottedPath [] chain = Text.join "." chain ∧ (Text.join "." chain).splitOn '.' = chain := by
  obtain ⟨nonempty, -, leads, defined⟩ := (mem_listedChains orderly).mp member
  apply dottedPath_of_segments (List.length_pos_iff.mp nonempty)
  exact (Value.object sample).segments_of_follow segmented (leads ▸ defined)

theorem discoverFields_eq_listedChains (orderly : (Value.object sample).Orderly)
    (segmented : (Value.object sample).Segmented) :
    discoverFields (.object sample) =
      (listedChains sample).map fun (chain, v) => .ofValue (Text.join "." chain) v := by
  have walked : walkInto [] (.object sample) =
      (Fields.chains maxNesting sample).map (.ofChain []) :=
    walkFields_eq_chains .root sample segmented
  have sorted : discoverFields (.object sample) = (listedChains sample).map (.ofChain []) := by
    rw [discoverFields, walked, listedChains, List.map_mergeSort]
    exact fun _ _ _ _ => rfl
  rw [sorted]
  apply List.map_congr_left
  rintro ⟨chain, v⟩ member
  rw [FieldDescriptor.ofChain, (path_of_mem_listedChains orderly segmented member).1]

theorem listedChains_pairwise_ne (orderly : (Value.object sample).Orderly) :
    (listedChains sample).Pairwise fun a b => a.1 ≠ b.1 := by
  have walked : (Fields.chains maxNesting sample).Pairwise fun a b => a.1 ≠ b.1 :=
    (Fields.chains_pairwise maxNesting sample sample (.refl sample) orderly.1 orderly.2).imp
      fun precedes => precedes.ne orderly
  exact (List.mergeSort_perm _ _).symm.pairwise walked fun apart => apart.symm

theorem listedChains_pairwise (orderly : (Value.object sample).Orderly)
    (segmented : (Value.object sample).Segmented) :
    (listedChains sample).Pairwise (Listed sample) := by
  have precede := Fields.chains_pairwise maxNesting sample sample (.refl sample) orderly.1 orderly.2
  have sorted := pairwise_mergeSort_of_pairwise
    (fun a b c => FieldDescriptor.le_trans (.ofChain [] a) (.ofChain [] b) (.ofChain [] c))
    (fun a b => FieldDescriptor.le_total (.ofChain [] a) (.ofChain [] b)) precede
  refine sorted.imp_of_mem ?_
  rintro ⟨c, v⟩ ⟨d, w⟩ memC memD ⟨before, tie⟩
  have pathC := (path_of_mem_listedChains orderly segmented memC).1
  have pathD := (path_of_mem_listedChains orderly segmented memD).1
  simp only [FieldDescriptor.ofChain, FieldDescriptor.le_def, FieldDescriptor.ofValue, pathC,
    pathD] at before tie
  by_cases apart : (displayName (Text.join "." c)).fold ≠ (displayName (Text.join "." d)).fold
  · rw [if_neg apart] at before
    exact .folded apart before
  · have same := not_ne_iff.mp apart
    rw [if_pos same] at before
    by_cases named : displayName (Text.join "." c) = displayName (Text.join "." d)
    · refine .tied named (tie ?_)
      rw [if_pos same.symm, named]
      exact named ▸ before
    · exact .exact same named before

end Sample

/-- Discovery describes every chain of one to four names that leads to something, and nothing else. No
    two fields have the same path, and they are listed by display name, chains of the same display name
    in depth-first order. -/
theorem discovered_fields_are_chains {sample : Fields} (orderly : (Value.object sample).Orderly)
    (segmented : (Value.object sample).Segmented) :
    ∃ found : List (List Text × Value),
      discoverFields (.object sample) =
        found.map (fun (chain, v) => .ofValue (Text.join "." chain) v) ∧
      (∀ chain v, (chain, v) ∈ found ↔ 1 ≤ chain.length ∧ chain.length ≤ 4 ∧
        (Value.object sample).follow chain = v ∧ v ≠ .undefined) ∧
      ((discoverFields (.object sample)).map (·.path)).Nodup ∧
      found.Pairwise (Listed sample) := by
  have described := discoverFields_eq_listedChains orderly segmented
  refine ⟨listedChains sample, described, fun _ _ => mem_listedChains orderly, ?_,
    listedChains_pairwise orderly segmented⟩
  rw [described, List.map_map, List.Nodup, List.pairwise_map]
  refine (listedChains_pairwise_ne orderly).imp_of_mem ?_
  rintro ⟨c, v⟩ ⟨d, w⟩ memC memD apart same
  have partsC := (path_of_mem_listedChains orderly segmented memC).2
  have partsD := (path_of_mem_listedChains orderly segmented memD).2
  apply apart
  calc c = (Text.join "." c).splitOn '.' := partsC.symm
    _ = (Text.join "." d).splitOn '.' := congrArg (Text.splitOn '.') same
    _ = d := partsD

/-- A field four names deep is described, one that is five names deep is not; two fields with the same
    display name stay in the order of the sample. -/
theorem five_names_deep_not_described :
    let inner : Value := .object [("e", .int 1)]
    let sample : Fields := [("q", .object [("x", .object [("u", .int 2)])]),
      ("p", .object [("x", .object [("u", .null)])]),
      ("a", .object [("b", .object [("c", .object [("d", inner)])])])]
    (Value.object sample).Orderly ∧ (Value.object sample).Segmented ∧
      ∃ found : List (List Text × Value),
        discoverFields (.object sample) =
          found.map (fun (chain, v) => .ofValue (Text.join "." chain) v) ∧
        ([("a" : Text), "b", "c", "d"], inner) ∈ found ∧
        (∀ v, ([("a" : Text), "b", "c", "d", "e"], v) ∉ found) ∧ found.Pairwise (Listed sample) := by
  intro inner sample
  have orderly : (Value.object sample).Orderly :=
    ⟨by decide, ⟨by decide, ⟨by decide, trivial, trivial⟩, trivial⟩,
      ⟨by decide, ⟨by decide, trivial, trivial⟩, trivial⟩,
      ⟨by decide, ⟨by decide, ⟨by decide, ⟨by decide, trivial, trivial⟩, trivial⟩, trivial⟩, trivial⟩,
      trivial⟩
  have segmented : (Value.object sample).Segmented :=
    ⟨by decide, ⟨by decide, ⟨by decide, trivial, trivial⟩, trivial⟩,
      by decide, ⟨by decide, ⟨by decide, trivial, trivial⟩, trivial⟩,
      by decide, ⟨by decide, ⟨by decide, ⟨by decide, ⟨by decide, trivial, trivial⟩, trivial⟩, trivial⟩,
        trivial⟩, trivial⟩
  obtain ⟨found, described, mem, -, order⟩ := discovered_fields_are_chains orderly segmented
  refine ⟨orderly, segmented, found, described, ?_, ?_, order⟩
  · exact (mem _ _).mpr ⟨by decide, by decide, rfl, by nofun⟩
  · intro v listed
    exact absurd ((mem _ _).mp listed).2.1 (by decide)

end UnitRouting
