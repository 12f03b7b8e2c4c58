import UnitRouting.Discovery
import UnitRouting.Proofs.Condition.Legible
import UnitRouting.Proofs.Config.RoundTrip
import UnitRouting.Proofs.Json.Built
import UnitRouting.Proofs.Text.Members

/-! # Discovered fields

Every field that discovery describes stands in the sample at a chain of names, and its path is the
chain with dots between the names. A lookup splits the path at its dots again. It comes back to the
field if no dot belongs to a name, no name in front is empty, and no field of the sample itself has
the whole path as its name. -/

namespace UnitRouting

namespace Value

mutual

/-- No object has two fields of one name or a field without a value. -/
def Orderly : Value → Prop
  | .undefined => False
  | .object fields => (Fields.names fields).Nodup ∧ OrderlyFields fields
  | _ => True

/-- All values are orderly. -/
def OrderlyFields : List (Text × Value) → Prop
  | [] => True
  | (_, v) :: rest => v.Orderly ∧ OrderlyFields rest

end

theorem orderlyFields_iff {fields : Fields} :
    OrderlyFields fields ↔ ∀ field ∈ fields, field.2.Orderly := by
  induction fields with
  | nil => simp only [OrderlyFields, List.not_mem_nil, false_implies, implies_true]
  | cons field rest ih => simp only [OrderlyFields, ih, List.forall_mem_cons]

theorem Orderly.ne_undefined {v : Value} (orderly : v.Orderly) : v ≠ .undefined := by
  rintro rfl
  exact orderly

end Value

theorem Fields.get?_of_mem {fields : Fields} (distinct : fields.names.Nodup) {name : Text}
    {v : Value} (member : (name, v) ∈ fields) : fields.get? name = some v := by
  induction fields with
  | nil => cases member
  | cons field rest ih =>
      simp only [names, List.map_cons, List.nodup_cons] at distinct
      rcases List.mem_cons.mp member with rfl | later
      · simp only [get?, if_true]
      · have other : field.1 ≠ name := by
          intro same
          exact distinct.1 (List.mem_map.mpr ⟨_, later, same.symm⟩)
        simp only [get?, if_neg other]
        exact ih distinct.2 later

theorem Json.orderly_of_read {t : Text} {v : Value} (holds : read t = .ok v) : v.Orderly := by
  have built : Built Value.Orderly := by
    constructor
    case constant => simp [constants, Value.Orderly]
    case int => exact fun _ _ => trivial
    case float => exact fun _ => trivial
    case text => exact fun _ => trivial
    case list => exact fun _ _ => trivial
    case object => exact fun _ each => ⟨each.distinct, Value.orderlyFields_iff.mpr each.values⟩
  exact built.of_read holds

/-- The path of a chain of names from the object at a path on. -/
def dottedPath (parent : Text) (chain : List Text) : Text := chain.foldl fieldPath parent

theorem Text.join_append_cons (separator first second : Text) (rest : List Text) :
    join separator ((first ++ separator ++ second) :: rest) =
      join separator (first :: second :: rest) := by
  cases rest with
  | nil => simp [join]
  | cons next rest => simp [join]

theorem dottedPath_of_ne {parent : Text} (nonempty : parent ≠ []) (chain : List Text) :
    dottedPath parent chain = Text.join "." (parent :: chain) := by
  induction chain generalizing parent with
  | nil => rfl
  | cons name rest ih =>
      have longer : fieldPath parent name = parent ++ "." ++ name := by simp [fieldPath, nonempty]
      have filled : fieldPath parent name ≠ [] := by simp [longer, nonempty]
      rw [dottedPath, List.foldl_cons, ← dottedPath, ih filled, longer, Text.join_append_cons]

/-- Empty names in front leave no trace in the path. -/
theorem dottedPath_nil (chain : List Text) :
    dottedPath [] chain = Text.join "." (chain.dropWhile List.isEmpty) := by
  induction chain with
  | nil => rfl
  | cons name rest ih =>
      have first : fieldPath [] name = name := rfl
      rw [dottedPath, List.foldl_cons, ← dottedPath, first]
      by_cases empty : name = []
      · simpa [empty] using ih
      · rw [dottedPath_of_ne empty, List.dropWhile_cons_of_neg (by simpa using empty)]

theorem length_join_dropWhile_le (separator : Text) (names : List Text) :
    (Text.join separator (names.dropWhile List.isEmpty)).length ≤
      (Text.join separator names).length := by
  induction names with
  | nil => exact Nat.le_refl _
  | cons name rest ih =>
      by_cases empty : name = []
      · cases rest with
        | nil => simp [empty, Text.join]
        | cons next rest =>
            simp only [empty, List.dropWhile_cons_of_pos, List.isEmpty_nil]
            have longer : (Text.join separator ([] :: next :: rest)).length =
                separator.length + (Text.join separator (next :: rest)).length := by
              simp [Text.join]
            omega
      · rw [List.dropWhile_cons_of_neg (by simpa using empty)]

namespace Fields

/-- The names that a lookup follows: the whole path if a field has it as its name, and else its
    parts. -/
def route (context : Fields) (path : Text) : List Text :=
  if (context.get? path).isSome then [path] else path.splitOn '.'

theorem resolve_eq_follow (context : Fields) (path : Text) :
    context.resolve path = (Value.object context).follow (context.route path) := by
  unfold resolve route
  cases found : context.get? path with
  | none => rfl
  | some v => simp [Value.follow, found]

/-- The path of a chain of names leads back to where the chain leads: the chain is a name of the
    sample itself, or no dot belongs to a name, the first name is not empty, and no field of the
    sample itself has the whole path as its name. -/
inductive Addressable (sample : Fields) : List Text → Prop where
  | outer {name : Text} : Addressable sample [name]
  | inner {name : Text} {rest : List Text} (named : name ≠ [])
      (dotless : ∀ n ∈ name :: rest, CodePoint.ofChar '.' ∉ n)
      (unshadowed : sample.get? (Text.join "." (name :: rest)) = none) :
      Addressable sample (name :: rest)

variable {sample : Fields} {name : Text} {rest : List Text}

theorem route_of_addressable (stands : (sample.get? name).isSome)
    (addressable : sample.Addressable (name :: rest)) :
    sample.route (dottedPath [] (name :: rest)) = name :: rest := by
  cases addressable with
  | outer =>
      have path : dottedPath [] [name] = name := rfl
      rw [path, route, if_pos stands]
  | inner named dotless unshadowed =>
      have path : dottedPath [] (name :: rest) = Text.join "." (name :: rest) :=
        dottedPath_of_ne named rest
      rw [path, route, unshadowed, Option.isSome_none, if_neg Bool.false_ne_true]
      exact Text.splitOn_join_of_free dotless

/-- A first name that is empty is missing in the path, so the parts of the path are fewer. -/
theorem addressable_of_route
    (followed : sample.route (dottedPath [] (name :: rest)) = name :: rest) :
    sample.Addressable (name :: rest) := by
  unfold route at followed
  split at followed
  · have single : rest = [] := (List.cons.inj followed).2.symm
    rw [single]
    exact .outer
  · next unshadowed =>
      have joined := Text.join_splitOn (CodePoint.ofChar '.') (dottedPath [] (name :: rest))
      rw [followed] at joined
      cases rest with
      | nil => exact .outer
      | cons next rest =>
          have named : name ≠ [] := by
            intro empty
            have shorter := length_join_dropWhile_le "." (next :: rest)
            have same := congrArg List.length joined
            rw [empty, dottedPath_nil, List.dropWhile_cons_of_pos rfl, Text.join] at same
            · simp only [List.nil_append, List.length_append, List.length_singleton] at same
              have dot : (Text.ofString ".") = [CodePoint.ofChar '.'] := rfl
              rw [dot] at shorter same
              omega
            · nofun
          refine .inner named ?_ ?_
          · intro n member
            rw [← followed] at member
            exact Text.not_mem_of_mem_splitOn member
          · rw [← dottedPath_of_ne named]
            exact Option.not_isSome_iff_eq_none.mp unshadowed

end Fields

mutual

theorem mem_walkFields {parent : Text} {d : FieldDescriptor} (fields : List (Text × Value))
    (orderly : Value.OrderlyFields fields) (described : d ∈ walkFields parent fields) :
    ∃ name v chain w, (name, v) ∈ fields ∧ v.follow chain = w ∧ w ≠ .undefined ∧
      d = .ofValue (dottedPath parent (name :: chain)) w := by
  match fields with
  | [] => cases described
  | (name, v) :: rest =>
      obtain ⟨here, later⟩ := orderly
      simp only [walkFields, List.mem_cons, List.mem_append] at described
      rcases described with (rfl | inside) | behind
      · exact ⟨name, v, [], v, List.mem_cons_self, rfl, here.ne_undefined, rfl⟩
      · split at inside
        · obtain ⟨next, chain, w, found, defined, same⟩ := mem_walkInto v here inside
          exact ⟨name, v, next :: chain, w, List.mem_cons_self, found, defined, same⟩
        · cases inside
      · obtain ⟨other, u, chain, w, member, found⟩ := mem_walkFields rest later behind
        exact ⟨other, u, chain, w, List.mem_cons_of_mem _ member, found⟩

theorem mem_walkInto {path : Text} {d : FieldDescriptor} (v : Value) (orderly : v.Orderly)
    (described : d ∈ walkInto path v) :
    ∃ name chain w, v.follow (name :: chain) = w ∧ w ≠ .undefined ∧
      d = .ofValue (dottedPath path (name :: chain)) w := by
  match v with
  | .object fields =>
      obtain ⟨name, v, chain, w, member, found, defined, same⟩ :=
        mem_walkFields fields orderly.2 described
      refine ⟨name, chain, w, ?_, defined, same⟩
      rw [Value.follow, Fields.get?_of_mem orderly.1 member]
      exact found
  | .undefined | .null | .bool _ | .int _ | .float _ | .text _ | .list _ => cases described

end

theorem mem_discoverFields {sample : Value} {d : FieldDescriptor} :
    d ∈ discoverFields sample ↔ d ∈ walkInto [] sample := by
  rw [discoverFields, List.mem_mergeSort]

/-- What is described is the value at a chain of names. -/
structure FieldDescriptor.Describes (d : FieldDescriptor) (sample : Fields) (chain : List Text)
    (v : Value) : Prop where
  found : (Value.object sample).follow chain = v
  defined : v ≠ .undefined
  path : d.path = dottedPath [] chain
  type : d.type = v.fieldType
  sample : d.sample = v.fieldExample

theorem Condition.evaluate_singleton {sample : Fields} {path : Text} {v : Value}
    (found : sample.resolve path = v) {c : Condition} (named : c.field = path) :
    c.evaluate sample = c.evaluate [(path, v)] := by
  apply evaluate_congr rfl rfl rfl Iff.rfl
  rw [named, found]
  simp [Fields.resolve, Fields.get?]

/-- Every field that is discovered in a sample is described as what stands at some chain of names.
    The lookup of its path goes to that place exactly if the chain is addressable: if it is one name
    of the sample itself, or the first name is not empty, no name has a dot in it and the sample has
    no field of the same path. Then the lookup finds the described value, and a condition on the
    path reads nothing else of the sample. Samples that are read from documents are orderly. -/
theorem discovered_field_found_iff_addressable {sample : Fields}
    (orderly : (Value.object sample).Orderly) {d : FieldDescriptor}
    (discovered : d ∈ discoverFields (.object sample)) :
    ∃ chain v, d.Describes sample chain v ∧
      (sample.route d.path = chain ↔ sample.Addressable chain) ∧
      (sample.Addressable chain → sample.resolve d.path = v ∧
        ∀ c : Condition, c.field = d.path → c.evaluate sample = c.evaluate [(d.path, v)]) := by
  obtain ⟨name, rest, v, found, defined, rfl⟩ :=
    mem_walkInto _ orderly (mem_discoverFields.mp discovered)
  have stands : (sample.get? name).isSome := by
    cases given : sample.get? name with
    | some w => rfl
    | none =>
        simp only [Value.follow, given] at found
        exact absurd found.symm defined
  have followed (addressable : sample.Addressable (name :: rest)) :
      sample.route (dottedPath [] (name :: rest)) = name :: rest :=
    Fields.route_of_addressable stands addressable
  refine ⟨name :: rest, v, ⟨found, defined, rfl, rfl, rfl⟩, ?_, ?_⟩
  · constructor
    · intro followed
      exact Fields.addressable_of_route followed
    · exact followed
  · intro addressable
    have resolved : sample.resolve (dottedPath [] (name :: rest)) = v := by
      rw [Fields.resolve_eq_follow, followed addressable, found]
    exact ⟨resolved, fun c named => c.evaluate_singleton resolved named⟩

/-- A field of a nested object in a document. -/
theorem nested_field_discovered :
    let sample : Fields :=
      [("caller", .object [("region", .text "EMEA")]), ("queue", .text "sales")]
    let d : FieldDescriptor := ⟨"caller.region", "Region (caller)", "string", "EMEA"⟩
    Json.read (Json.Style.readable.write (.object sample)) = .ok (.object sample) ∧
      sample.resolve d.path = .text "EMEA" ∧ ∃ chain v, d.Describes sample chain v ∧
        (sample.route d.path = chain ↔ sample.Addressable chain) := by
  intro sample d
  have plain : (Value.object sample).Plain :=
    Value.plain_object ["caller", "queue"] rfl (by decide)
      ⟨Value.plain_object ["region"] rfl (by decide) ⟨trivial, trivial⟩, trivial, trivial⟩
  have read : Json.read (Json.Style.readable.write (.object sample)) = .ok (.object sample) :=
    Json.read_written rfl plain
  have orderly := Json.orderly_of_read read
  have discovered : d ∈ discoverFields (.object sample) := by
    rw [mem_discoverFields]
    decide +kernel
  obtain ⟨chain, v, describes, followed, -⟩ :=
    discovered_field_found_iff_addressable orderly discovered
  exact ⟨read, rfl, chain, v, describes, followed⟩

/-- A name with a dot in it inside another object is not found, and a nested field is not found
    behind one that has its path as its name. -/
theorem dotted_names_mislead_lookup :
    let dotted : Fields := [("caller", .object [("first.name", .text "Ann")])]
    let shadowed : Fields :=
      [("caller.region", .int 1), ("caller", .object [("region", .text "EMEA")])]
    let c : Condition := ⟨"caller.first.name", "EQUALS", some "Ann", [], some "Ann"⟩
    let name : FieldDescriptor := ⟨"caller.first.name", "Name (first)", "string", "Ann"⟩
    let region : FieldDescriptor := ⟨"caller.region", "Region (caller)", "string", "EMEA"⟩
    (name ∈ discoverFields (.object dotted) ∧ dotted.resolve name.path = .undefined ∧
      c.evaluate dotted = .ok false) ∧
    region ∈ discoverFields (.object shadowed) ∧ shadowed.resolve region.path = .int 1 ∧
      (Value.int 1).fieldType ≠ region.type := by
  intro dotted shadowed c name region
  rw [mem_discoverFields, mem_discoverFields]
  refine ⟨⟨by decide +kernel, rfl, rfl⟩, by decide +kernel, rfl, by decide⟩

end UnitRouting
