import UnitRouting.Proofs.Config.Defects
import UnitRouting.Proofs.Json.Completeness
import UnitRouting.Proofs.Json.Soundness

/-! # The verdict on the syntax of a configuration

Every text is a document, or is not one, or holds an integer of more digits than are read. The first is
passed, the second is refused with the message that loading gives too. The third has no verdict: the
fault goes through both. -/

namespace UnitRouting

open Outcome

namespace Json

theorem numeralLimit_pos : 0 < numeralLimit := by decide

theorem read_succeeds {t : Text} (document : IsDocument t) (short : ¬Overlong numeralLimit t) :
    ∃ v, read t = .ok v := by
  rcases readDocument_passes (some numeralLimit) document with ⟨v, found⟩ | long
  · exact ⟨v, by rw [read, found]⟩
  · exact absurd ((readDocument_settles numeralLimit_pos t).of_error long rfl) short

/-- What is no document has a syntax error, unless an integer comes first that is too long. -/
theorem read_malformed {t : Text} (notDocument : ¬IsDocument t) (short : ¬Overlong numeralLimit t) :
    ∃ error position, read t = .error (.json error position) := by
  have settles := readDocument_settles numeralLimit_pos t
  cases met : readDocument (some numeralLimit) t with
  | ok v => exact absurd (settles.of_ok met) notDocument
  | error cause =>
      cases cause with
      | malformed error rest => exact ⟨error, _, by rw [read, met]⟩
      | numeralTooLong => exact absurd (settles.of_error met rfl) short

theorem read_overlong {t : Text} (long : Overlong numeralLimit t) :
    read t = .error .numeralTooLong := by
  rw [read, readDocument_of_overlong long]

end Json

section Verdict

variable {t : Text}

theorem verdict_of_document (document : Json.IsDocument t)
    (short : ¬Json.Overlong numeralLimit t) : configSyntaxError? t = .ok none ∧
      ((∃ rs, RuleSet.parse t = .ok rs) ∨ ∃ defect, RuleSet.parse t = .error (.config defect)) := by
  obtain ⟨v, read⟩ := Json.read_succeeds document short
  refine ⟨by rw [configSyntaxError?, read], ?_⟩
  cases parsed : RuleSet.parse t with
  | ok rs => exact .inl ⟨rs, rfl⟩
  | error fault =>
      rcases RuleSet.isDefect_of_parse parsed with ⟨defect, rfl⟩ | unread
      · exact .inr ⟨defect, rfl⟩
      · rw [read] at unread
        cases unread

theorem verdict_of_malformed (notDocument : ¬Json.IsDocument t)
    (short : ¬Json.Overlong numeralLimit t) : ∃ defect : ConfigDefect,
      configSyntaxError? t = .ok (some defect.message) ∧ RuleSet.parse t = .error (.config defect) := by
  obtain ⟨error, position, read⟩ := Json.read_malformed notDocument short
  refine ⟨.malformed error position, ?_, ?_⟩
  · rw [configSyntaxError?, read]
    rfl
  · rw [RuleSet.parse, read]
    rfl

theorem verdict_of_overlong (long : Json.Overlong numeralLimit t) :
    configSyntaxError? t = .error .numeralTooLong ∧ RuleSet.parse t = .error .numeralTooLong := by
  have read := Json.read_overlong long
  refine ⟨by rw [configSyntaxError?, read], ?_⟩
  rw [RuleSet.parse, read]
  rfl

theorem configSyntaxError?_eq_error {fault : Fault} :
    configSyntaxError? t = .error fault ↔
      fault = .numeralTooLong ∧ Json.Overlong numeralLimit t := by
  by_cases long : Json.Overlong numeralLimit t
  · rw [(verdict_of_overlong long).1, Except.error.injEq, eq_comm]
    exact (and_iff_left long).symm
  · refine iff_of_false (fun failed => ?_) fun ⟨_, found⟩ => long found
    by_cases document : Json.IsDocument t
    · rw [(verdict_of_document document long).1] at failed
      cases failed
    · obtain ⟨defect, refused, -⟩ := verdict_of_malformed document long
      rw [refused] at failed
      cases failed

end Verdict

/-- A check fails for nothing but an integer that is too long, whatever is checked. -/
theorem Value.configVerdict_eq_error {v : Value} {fault : Fault} :
    v.configVerdict = .error fault ↔
      fault = .numeralTooLong ∧ ∃ t, v = .text t ∧ Json.Overlong numeralLimit t := by
  cases v with
  | text t => simp only [configVerdict, configSyntaxError?_eq_error, text.injEq, exists_eq_left']
  | _ => simp only [configVerdict, reduceCtorEq, false_and, exists_const, and_false]

/-- There are three kinds of texts. A document is passed, and is loaded or has a defect. What is no
    document is refused, and loading refuses it with the same message. An integer of too many digits, met
    before any syntax error, is a fault of the check and of loading alike. -/
theorem syntax_verdict (t : Text) :
    (Json.IsDocument t ∧ ¬Json.Overlong numeralLimit t → configSyntaxError? t = .ok none ∧
      ((∃ rs, RuleSet.parse t = .ok rs) ∨ ∃ defect, RuleSet.parse t = .error (.config defect))) ∧
    (¬Json.IsDocument t ∧ ¬Json.Overlong numeralLimit t → ∃ defect : ConfigDefect,
      configSyntaxError? t = .ok (some defect.message) ∧
        RuleSet.parse t = .error (.config defect)) ∧
    (Json.Overlong numeralLimit t → configSyntaxError? t = .error .numeralTooLong ∧
      RuleSet.parse t = .error .numeralTooLong) :=
  ⟨fun ⟨document, short⟩ => verdict_of_document document short,
    fun ⟨notDocument, short⟩ => verdict_of_malformed notDocument short, verdict_of_overlong⟩

theorem isWhole_ones (n : Nat) : Json.IsWhole (List.replicate (n + 1) (CodePoint.ofChar '1')) := by
  refine ⟨⟨nofun, ?_⟩, ?_⟩
  · intro c member
    rw [List.eq_of_mem_replicate member]
    rfl
  · intro rest zero
    rw [List.replicate_succ] at zero
    exact absurd (List.cons.inj zero).1 (by decide)

theorem isDocument_ones (n : Nat) :
    Json.IsDocument (List.replicate (n + 1) (CodePoint.ofChar '1')) := by
  have number : Json.IsNumber (List.replicate (n + 1) (CodePoint.ofChar '1') ++ ([] ++ [])) :=
    .parts (.positive (isWhole_ones n)) (.inl rfl) (.inl rfl)
  have blank : Json.Blank [] := nofun
  have document := Json.IsDocument.whole blank (.number number) blank
  simpa only [List.append_nil, List.nil_append] using document

theorem overlong_ones {limit n : Nat} (long : limit ≤ n) :
    Json.Overlong limit (List.replicate (n + 1) (CodePoint.ofChar '1')) := by
  have ends : Json.EndsInteger [] := Json.endsInteger_iff.mpr ⟨nofun, rfl, rfl⟩
  have integer := Json.LongInteger.positive (isWhole_ones n)
    (by rw [List.length_replicate]; exact Nat.lt_succ_of_le long) ends
  rw [List.append_nil] at integer
  have blank : Json.Blank [] := nofun
  exact .document blank (.here integer)

/-- An integer of one digit too many is a document, but neither passed nor loaded. -/
theorem no_verdict_on_long_integer :
    let t : Text := List.replicate 4301 (CodePoint.ofChar '1')
    Json.IsDocument t ∧ configSyntaxError? t = .error .numeralTooLong ∧
      RuleSet.parse t = .error .numeralTooLong := by
  intro t
  exact ⟨isDocument_ones 4300, verdict_of_overlong (overlong_ones (Nat.le_refl 4300))⟩

end UnitRouting
