import UnitRouting.Proofs.Json.Leaf
import UnitRouting.Proofs.Service.Route
import UnitRouting.Proofs.Text.Utf8

/-! # Percent-encoded paths

Whichever of its characters a text has percent-encoded, in a path it is read back as it was. That
holds of slashes, too: they are told from those between segments in the target only, and no longer
once it is decoded. -/

namespace UnitRouting

/-- The character may stand for itself in a segment of a target: it is visible and in ASCII, and it
    does not begin an escape, another segment, a query or a fragment. -/
def CodePoint.standsForItself (c : CodePoint) : Bool :=
  c.isBetween '!' '~' && c != CodePoint.ofChar '%' && c != CodePoint.ofChar '/' &&
    c != CodePoint.ofChar '?' && c != CodePoint.ofChar '#'

/-- The text is a percent-encoding of the bytes: a byte is written by its hexadecimal digits, in
    either case, or as the character that it is. -/
inductive Text.Encodes : Text → Bytes → Prop where
  | nil : Encodes [] []
  | literal {c : CodePoint} {t : Text} {bytes : Bytes} (plain : c.standsForItself = true)
      (later : Encodes t bytes) : Encodes (c :: t) (Utf8.encodePoint c ++ bytes)
  | byte {d e : CodePoint} {high low : Nat} {t : Text} {bytes : Bytes}
      (first : d.hexDigit? = some high) (second : e.hexDigit? = some low)
      (later : Encodes t bytes) :
      Encodes (CodePoint.ofChar '%' :: d :: e :: t) (.ofNat (16 * high + low) :: bytes)

namespace Text

variable {t encoded : Text} {bytes : Bytes} {c : CodePoint}

theorem percentBytes_cons_of_ne (ne : c ≠ CodePoint.ofChar '%') (t : Text) :
    percentBytes (c :: t) = Utf8.encodePoint c ++ percentBytes t := by
  match t with
  | [] => simp [percentBytes]
  | [d] => simp [percentBytes]
  | d :: e :: rest => simp only [percentBytes, if_neg ne]

theorem percentBytes_append (front : Text) (free : CodePoint.ofChar '%' ∉ front) (t : Text) :
    percentBytes (front ++ t) = Utf8.encode front ++ percentBytes t := by
  induction front with
  | nil => rfl
  | cons c front ih =>
      simp only [List.mem_cons, not_or] at free
      rw [List.cons_append, percentBytes_cons_of_ne (Ne.symm free.1), ih free.2, Utf8.encode_cons,
        List.append_assoc]

theorem Encodes.percentBytes (encodes : encoded.Encodes bytes) :
    encoded.percentBytes = bytes := by
  induction encodes with
  | nil => rfl
  | literal plain later ih =>
      simp only [CodePoint.standsForItself, Bool.and_eq_true, bne_iff_ne] at plain
      obtain ⟨⟨⟨⟨-, ne⟩, -⟩, -⟩, -⟩ := plain
      rw [percentBytes_cons_of_ne ne, ih]
  | byte first second later ih =>
      simp only [Text.percentBytes, if_true, first, second, ih]

theorem Encodes.free (encodes : encoded.Encodes bytes) :
    ∀ c ∈ encoded, c ≠ CodePoint.ofChar '?' ∧ c ≠ CodePoint.ofChar '#' := by
  have digit {d : CodePoint} {n : Nat} (hex : d.hexDigit? = some n) :
      d ≠ CodePoint.ofChar '?' ∧ d ≠ CodePoint.ofChar '#' := by
    constructor
    · rintro rfl
      cases hex
    · rintro rfl
      cases hex
  induction encodes with
  | nil => nofun
  | literal plain later ih =>
      simp only [CodePoint.standsForItself, Bool.and_eq_true, bne_iff_ne] at plain
      exact List.forall_mem_cons.mpr ⟨⟨plain.1.2, plain.2⟩, ih⟩
  | byte first second later ih =>
      refine List.forall_mem_cons.mpr ⟨by decide, ?_⟩
      exact List.forall_mem_cons.mpr ⟨digit first, List.forall_mem_cons.mpr ⟨digit second, ih⟩⟩

theorem encodes_percentEncoded (bytes : Bytes) : (percentEncoded bytes).Encodes bytes := by
  induction bytes with
  | nil => exact .nil
  | cons b rest ih =>
      have digit (n : Nat) := Json.hexDigit?_ofHexDigit (Nat.mod_lt n (by decide : 0 < 16))
      have whole : 16 * (b.toNat / 16 % 16) + b.toNat % 16 = b.toNat := by
        have byte := b.toNat_lt
        omega
      have encodes := Encodes.byte (digit (b.toNat / 16)) (digit b.toNat) ih
      rw [whole, UInt8.ofNat_toNat] at encodes
      exact encodes

end Text

namespace Path

/-- The path of all rules, with a slash behind. -/
def rulesPrefix : Text := "/api/rules/"

/-- The path that names a rule is made of its id, whichever percent-encoding of it is asked for. -/
theorem ofTarget_rule {id encoded : Text} (scalars : ∀ c ∈ id, c.isSurrogate = false)
    (encodes : encoded.Encodes (Utf8.encode id)) :
    ofTarget (rulesPrefix ++ encoded) = rulesPrefix ++ id := by
  have fixed : ∀ c ∈ rulesPrefix,
      c ≠ CodePoint.ofChar '?' ∧ c ≠ CodePoint.ofChar '#' ∧ c.isSurrogate = false := by decide
  have whole : (rulesPrefix ++ encoded).takeWhile
      (fun c => c != CodePoint.ofChar '?' && c != CodePoint.ofChar '#') =
        rulesPrefix ++ encoded := by
    rw [List.takeWhile_eq_self_iff]
    intro c member
    rw [Bool.and_eq_true, bne_iff_ne, bne_iff_ne]
    rcases List.mem_append.mp member with inFront | given
    · exact ⟨(fixed c inFront).1, (fixed c inFront).2.1⟩
    · exact encodes.free c given
  have hostless : dropHost (rulesPrefix ++ encoded) = rulesPrefix ++ encoded := rfl
  have bytes : Text.percentBytes (rulesPrefix ++ encoded) = Utf8.encode (rulesPrefix ++ id) := by
    rw [Text.percentBytes_append rulesPrefix (by decide), encodes.percentBytes, Utf8.encode_append]
  have decoded : Utf8.decodeReplacing (Utf8.encode (rulesPrefix ++ id)) = rulesPrefix ++ id := by
    apply Utf8.decodeReplacing_encode
    intro c member
    rcases List.mem_append.mp member with inFront | given
    · exact (fixed c inFront).2.2
    · exact scalars c given
  simp only [ofTarget, whole, hostless, bytes, decoded]
  rfl

theorem segments_rule (id : Text) :
    segments (rulesPrefix ++ id) =
      Text.ofString "api" :: Text.ofString "rules" :: id.splitOn slash := by
  have parts : rulesPrefix ++ id =
      [] ++ slash :: (Text.ofString "api" ++ slash :: (Text.ofString "rules" ++ slash :: id)) := rfl
  have api : slash ∉ Text.ofString "api" := by decide
  have rules : slash ∉ Text.ofString "rules" := by decide
  rw [parts, segments, Text.splitOn_append_cons List.not_mem_nil, Text.splitOn_append_cons api,
    Text.splitOn_append_cons rules]
  rfl

end Path

namespace Resource

theorem ofPath?_rule (id : Text) :
    ofPath? (Path.rulesPrefix ++ id) = ofRuleSegments? (id.splitOn Path.slash) := by
  rw [ofPath?, Path.segments_rule]
  obtain ⟨piece, pieces, split⟩ := List.exists_cons_of_ne_nil (Text.splitOn_ne_nil Path.slash id)
  rw [split]
  rfl

theorem ofPath?_rule_of_not_mem {id : Text} (named : id ≠ []) (free : Path.slash ∉ id) :
    ofPath? (Path.rulesPrefix ++ id) = some (.rule id) := by
  rw [ofPath?_rule, Text.splitOn_of_not_mem free, ofRuleSegments?, if_neg]
  simpa using named

/-- An id with slashes names nothing, or something about the rule whose id is in front of the first
    slash. -/
theorem ofPath?_rule_of_mem {id : Text} (slashed : Path.slash ∈ id) {resource : Resource}
    (found : ofPath? (Path.rulesPrefix ++ id) = some resource) :
    ∃ front, Path.slash ∉ front ∧ (resource = .ruleMove front ∨ resource = .conditions front ∨
      ∃ numeral, resource = .condition front numeral) := by
  rw [ofPath?_rule] at found
  obtain ⟨front, pieces, split⟩ := List.exists_cons_of_ne_nil (Text.splitOn_ne_nil Path.slash id)
  have member : front ∈ id.splitOn Path.slash := by
    rw [split]
    exact List.mem_cons_self
  refine ⟨front, Text.not_mem_of_mem_splitOn member, ?_⟩
  rw [split] at found
  match pieces with
  | [] =>
      -- A single piece would be the id itself, which has slashes.
      have whole : front = id := by simpa [split, Text.join] using Text.join_splitOn Path.slash id
      rw [whole] at member
      exact absurd slashed (Text.not_mem_of_mem_splitOn member)
  | [part] =>
      simp only [ofRuleSegments?] at found
      split at found
      · cases found
      split at found
      · cases found
        exact .inl rfl
      split at found
      · cases found
        exact .inr (.inl rfl)
      · cases found
  | [part, numeral] =>
      simp only [ofRuleSegments?] at found
      split at found
      · cases found
      split at found
      · cases found
        exact .inr (.inr ⟨numeral, rfl⟩)
      · cases found
  | part :: numeral :: other :: more => cases found

end Resource

end UnitRouting
