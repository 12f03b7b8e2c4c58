import UnitRouting.Pattern.Parser
import UnitRouting.Proofs.Outcome

/-! # Refused patterns

Most texts that are no patterns are refused as malformed. The other refusals have their marks in the
text: counts that are too large or too long stand behind a brace, and the flags that exclude each
other are turned on behind a question mark. -/

namespace UnitRouting.Pattern

open Outcome

/-- The text has what a refusal of it is about. -/
def Error.FoundIn (text : Text) : Error → Prop
  | .malformed => True
  | .countTooLarge | .countTooLong => CodePoint.ofChar '\x7b' ∈ text
  | .kindConflict => CodePoint.ofChar '?' ∈ text

/-- What is left to read stands in the text, and so does what turned the flags on. -/
structure ParseState.Within (text : Text) (s : ParseState) : Prop where
  rest : ∀ c, .plain c ∈ s.rest → c ∈ text
  flags : s.flags ≠ [] → CodePoint.ofChar '?' ∈ text

variable {text : Text} {α β : Type} {good : α → Prop} {later : β → Prop}

/-- The step stays within the text, gives a good result, and refuses only for what it has found. -/
def Parse.Keeps (text : Text) (good : α → Prop) (step : Parse α) : Prop :=
  ∀ s, s.Within text → Settles (Error.FoundIn text) (fun r => good r.1 ∧ r.2.Within text) (step s)

/-- The step keeps within the text, whatever it gives. -/
abbrev Parse.Safe (text : Text) (step : Parse α) : Prop := Keeps text (fun _ => True) step

namespace Parse

theorem Keeps.pure {a : α} (here : good a) : Keeps text good (Pure.pure a) :=
  fun _ within => .ok ⟨here, within⟩

theorem Keeps.bind {first : Parse α} {next : α → Parse β} (here : Keeps text good first)
    (there : ∀ a, good a → Keeps text later (next a)) : Keeps text later (first >>= next) :=
  fun s within => (here s within).bind fun _ before => there _ before.1 _ before.2

theorem Keeps.ite {c : Prop} [Decidable c] {yes no : Parse α} (pos : c → Keeps text good yes)
    (neg : ¬ c → Keeps text good no) : Keeps text good (if c then yes else no) := by
  split
  · next holds => exact pos holds
  · next fails => exact neg fails

theorem Keeps.get_bind {next : ParseState → Parse β}
    (there : ∀ s, s.Within text → Keeps text later (next s)) : Keeps text later (get >>= next) :=
  fun s within => there s within s within

theorem Keeps.discard {step : Parse α} (here : Keeps text good step) :
    Safe text (Functor.discard step) :=
  fun s within => (here s within).map fun _ kept => ⟨trivial, kept.2⟩

theorem keeps_throw {e : Error} (found : e.FoundIn text) : Keeps text good (throw e) :=
  fun _ _ => .error found

theorem keeps_throw_bind {e : Error} (found : e.FoundIn text) {next : α → Parse β} :
    Keeps text later (throw e >>= next) :=
  fun _ _ => .error found

theorem keeps_fail : Keeps text good fail := keeps_throw trivial

theorem keeps_fail_bind {next : α → Parse β} : Keeps text later (fail >>= next) :=
  keeps_throw_bind (show Error.FoundIn text .malformed from trivial)

theorem safe_set {s : ParseState} (within : s.Within text) :
    Safe text (MonadStateOf.set s : Parse PUnit) :=
  fun _ _ => .ok ⟨trivial, within⟩

theorem safe_modify {f : ParseState → ParseState} (stays : ∀ s, s.Within text → (f s).Within text) :
    Safe text (modify f) :=
  fun s within => .ok ⟨trivial, stays s within⟩

/-- A token that is no escape stands in the text. -/
def Read (text : Text) : Option Token → Prop
  | some (.plain c) => c ∈ text
  | _ => True

theorem read_of_mem {s : ParseState} (within : s.Within text) {token : Token}
    (member : token ∈ s.rest) : Read text (some token) := by
  cases token with
  | plain c => exact within.rest c member
  | escape c => trivial

theorem safe_goTo {rest : List Token} {s : ParseState} (within : s.Within text)
    (subset : rest ⊆ s.rest) : Safe text (goTo rest) := by
  have stands (c : CodePoint) (member : .plain c ∈ rest) : c ∈ text :=
    within.rest c (subset member)
  refine Keeps.get_bind fun now within => ?_
  dsimp only
  split
  · exact keeps_fail_bind
  · exact safe_set ⟨stands, within.flags⟩

theorem keeps_peek : Keeps text (Read text) peek := by
  refine Keeps.get_bind fun s within => .pure ?_
  cases rest : s.rest with
  | nil => trivial
  | cons token tokens => exact read_of_mem within (rest ▸ List.mem_cons_self)

theorem keeps_next : Keeps text (Read text) next := by
  refine Keeps.get_bind fun s within => ?_
  cases rest : s.rest with
  | nil => exact .pure trivial
  | cons token tokens =>
      refine (safe_goTo within ?_).bind fun _ _ => .pure ?_
      · rw [rest]
        exact List.subset_cons_self _ _
      · exact read_of_mem within (rest ▸ List.mem_cons_self)

theorem keeps_sees (c : Char) :
    Keeps text (fun b => b = true → CodePoint.ofChar c ∈ text) (sees c) := by
  refine keeps_peek.bind fun token read => .pure fun seen => ?_
  rw [eq_of_beq seen] at read
  exact read

theorem keeps_accept (c : Char) :
    Keeps text (fun b => b = true → CodePoint.ofChar c ∈ text) (accept c) := by
  refine (keeps_sees c).bind fun seen stands => ?_
  cases seen with
  | true => exact keeps_next.discard.bind fun _ _ => .pure stands
  | false => exact .pure stands

theorem safe_takeWhile (limit : Nat) (p : CodePoint → Bool) : Safe text (takeWhile limit p) := by
  refine Keeps.get_bind fun s within => ?_
  dsimp only
  split
  · exact (safe_goTo within (List.drop_subset _ _)).bind fun _ _ => .pure trivial
  · exact .pure trivial

theorem safe_upTo (c : Char) : Safe text (upTo c) := by
  refine Keeps.get_bind fun s within => ?_
  dsimp only
  split
  · exact keeps_fail
  · next token after found =>
      have subset : after ⊆ s.rest := fun t member =>
        List.drop_subset _ _ (found ▸ List.mem_cons_of_mem token member)
      refine (safe_goTo within subset).bind fun _ _ => ?_
      split
      · exact keeps_fail
      · exact .pure trivial

theorem safe_openGroup (name : Option Text) : Safe text (openGroup name) := by
  refine Keeps.get_bind fun s within => ?_
  dsimp only
  cases name with
  | none =>
      refine Keeps.bind (safe_set ?_) fun _ _ => .pure trivial
      exact ⟨within.rest, within.flags⟩
  | some name =>
      dsimp only
      split
      · exact keeps_fail_bind
      · refine Keeps.bind (safe_set ?_) fun _ _ => .pure trivial
        exact ⟨within.rest, within.flags⟩

theorem safe_closeGroup (number : Nat) (width : Width) : Safe text (closeGroup number width) :=
  safe_modify fun _ within => ⟨within.rest, within.flags⟩

theorem safe_numberOf (name : Text) : Safe text (numberOf name) := by
  refine Keeps.get_bind fun s within => ?_
  split
  · exact .pure trivial
  · exact keeps_fail

theorem safe_closedWidth (number : Nat) : Safe text (closedWidth number) := by
  refine Keeps.get_bind fun s within => ?_
  split
  · exact .pure trivial
  · exact keeps_fail

theorem safe_checkLookBehind (number : Nat) : Safe text (checkLookBehind number) := by
  refine Keeps.get_bind fun s within => ?_
  split
  · exact .pure trivial
  · refine (safe_closedWidth number).discard.bind fun _ _ => ?_
    split
    · exact keeps_fail
    · exact .pure trivial

end Parse

open Parse

theorem safe_hexCode (count : Nat) : Safe text (hexCode count) := by
  refine (safe_takeWhile count isHex).bind fun digits _ => ?_
  dsimp only
  split
  · exact keeps_fail_bind
  · split
    · exact .pure trivial
    · exact keeps_fail

theorem safe_namedCode : Safe text namedCode := by
  refine (keeps_accept _).bind fun opened _ => ?_
  dsimp only
  split
  · exact keeps_fail_bind
  · refine (safe_upTo _).bind fun name _ => ?_
    split
    · exact .pure trivial
    · exact keeps_fail

theorem safe_codeEscape {c : CodePoint} {code : Parse CodePoint} (known : codeEscape? c = some code) :
    Safe text code := by
  unfold codeEscape? at known
  split at known
  · cases known
    exact safe_hexCode 2
  split at known
  · cases known
    exact safe_hexCode 4
  split at known
  · cases known
    exact safe_hexCode 8
  split at known
  · cases known
    exact safe_namedCode
  · cases known

theorem safe_plainEscape (c : CodePoint) : Safe text (plainEscape c) := by
  unfold plainEscape
  split
  · exact keeps_fail
  · exact .pure trivial

theorem safe_memberEscape (c : CodePoint) : Safe text (memberEscape c) := by
  unfold memberEscape
  split
  · exact .pure trivial
  cases controlEscape? c with
  | some d => exact .pure trivial
  | none =>
      cases category? c with
      | some category => exact .pure trivial
      | none =>
          cases known : codeEscape? c with
          | some code => exact (safe_codeEscape known).bind fun _ _ => .pure trivial
          | none =>
              dsimp only
              split
              · refine (safe_takeWhile 2 isOctal).bind fun digits _ => ?_
                split
                · exact keeps_fail_bind
                · exact .pure trivial
              · split
                · exact keeps_fail
                · exact (safe_plainEscape c).bind fun _ _ => .pure trivial

theorem safe_reference (number : Nat) : Safe text (reference number) :=
  (safe_closedWidth number).bind fun _ _ => (safe_checkLookBehind number).bind fun _ _ =>
    .pure trivial

theorem safe_digitEscape (c : CodePoint) : Safe text (digitEscape c) := by
  refine (safe_takeWhile 1 CodePoint.isDigit).bind fun second _ => ?_
  split
  · refine (safe_takeWhile 1 isOctal).bind fun third _ => ?_
    split
    · dsimp only
      split
      · exact keeps_fail_bind
      · exact .pure trivial
    · exact safe_reference _
  · exact safe_reference _

theorem safe_escape (c : CodePoint) : Safe text (escape c) := by
  unfold escape
  iterate 4
    split
    · exact .pure trivial
  cases category? c with
  | some category => exact .pure trivial
  | none =>
      cases controlEscape? c with
      | some d => exact .pure trivial
      | none =>
          cases known : codeEscape? c with
          | some code => exact (safe_codeEscape known).bind fun _ _ => .pure trivial
          | none =>
              dsimp only
              split
              · exact (safe_takeWhile 2 isOctal).bind fun _ _ => .pure trivial
              · split
                · exact safe_digitEscape c
                · exact (safe_plainEscape c).bind fun _ _ => .pure trivial

theorem safe_memberOf (token : Token) : Safe text (memberOf token) := by
  cases token with
  | plain c => exact .pure trivial
  | escape c => exact safe_memberEscape c

theorem safe_members (fuel : Nat) (found : List Member) : Safe text (members fuel found) := by
  induction fuel generalizing found with
  | zero => exact keeps_fail
  | succ fuel ih =>
      refine keeps_next.bind fun token _ => ?_
      cases token with
      | none => exact keeps_fail
      | some token =>
          dsimp only
          split
          · exact .pure trivial
          refine (safe_memberOf token).bind fun member _ => ?_
          refine (keeps_accept '-').bind fun ranged _ => ?_
          split
          · refine keeps_next.bind fun last _ => ?_
            cases last with
            | none => exact keeps_fail
            | some last =>
                dsimp only
                split
                · exact .pure trivial
                refine (safe_memberOf last).bind fun high _ => ?_
                split
                · split
                  · exact keeps_fail_bind
                  · exact ih _
                · exact keeps_fail
          · exact ih _

theorem safe_setAtom : Safe text Pattern.set := by
  refine (keeps_accept '^').bind fun negated _ => ?_
  refine Keeps.get_bind fun s _ => ?_
  refine (safe_members _ []).bind fun found _ => ?_
  split <;> exact .pure trivial

theorem safe_count (marked : CodePoint.ofChar '\x7b' ∈ text) (digits : Text) :
    Safe text (count digits) := by
  unfold count
  split
  · exact .pure trivial
  split
  · refine keeps_throw_bind ?_
    exact marked
  dsimp only
  split
  · refine keeps_throw_bind ?_
    exact marked
  · exact .pure trivial

theorem safe_counts {mark : CodePoint} (stands : mark ∈ text)
    (known : mark = '*' ∨ mark = '+' ∨ mark = '?' ∨ mark = '\x7b') : Safe text (counts mark) := by
  unfold counts
  refine .ite (fun _ => .pure trivial) fun notQuestion => .ite (fun _ => .pure trivial) fun notStar =>
    .ite (fun _ => .pure trivial) fun notPlus => ?_
  -- Only a brace is left, so both counts stand behind one.
  have marked : CodePoint.ofChar '\x7b' ∈ text := by
    rcases known with rfl | rfl | rfl | rfl
    · exact absurd rfl notStar
    · exact absurd rfl notPlus
    · exact absurd rfl notQuestion
    · exact stands
  refine (keeps_sees _).bind fun closed _ => ?_
  split
  · exact .pure trivial
  refine Keeps.get_bind fun s within => ?_
  refine (safe_takeWhile _ _).bind fun low _ => ?_
  refine (keeps_accept ',').bind fun ranged _ => ?_
  extract_lets finish
  have finishes (high : Text) : Safe text (finish high) := by
    refine (keeps_accept _).bind fun closed _ => ?_
    split
    · refine (safe_count marked low).bind fun least _ => ?_
      refine (safe_count marked high).bind fun most _ => ?_
      cases most with
      | none => exact .pure trivial
      | some n =>
          dsimp only
          split
          · exact keeps_fail_bind
          · exact .pure trivial
    · exact (safe_goTo within (List.Subset.refl _)).bind fun _ _ => .pure trivial
  split
  · exact (safe_takeWhile _ _).bind fun high _ => finishes high
  · exact finishes low

theorem safe_repeated (item : Pattern) (least : Nat) (most : Option Nat) :
    Safe text (repeated item least most) := by
  unfold repeated
  split
  · exact keeps_fail
  · exact keeps_fail
  · refine (keeps_accept '?').bind fun lazy _ => ?_
    split
    · exact .pure trivial
    · refine (keeps_accept '+').bind fun possessive _ => ?_
      split <;> exact .pure trivial

theorem safe_flagLetters (ends : List Char) (fuel : Nat) (token : Token) (flags : Flags) :
    Safe text (flagLetters ends fuel token flags) := by
  induction fuel generalizing token flags with
  | zero => exact keeps_fail
  | succ fuel ih =>
      cases token with
      | escape c => exact keeps_fail
      | plain c =>
          unfold flagLetters
          split
          · exact keeps_fail
          dsimp only
          split
          · exact keeps_fail_bind
          refine keeps_next.bind fun stop _ => ?_
          split
          · exact keeps_fail
          · split
            · exact .pure trivial
            · exact ih _ _

theorem safe_groupFlags (asked : CodePoint.ofChar '?' ∈ text) (first : Token) :
    Safe text (groupFlags first) := by
  refine Keeps.get_bind fun s _ => ?_
  extract_lets fuel minus finish
  have finishes (found : Flags × Token) : Safe text (finish found) := by
    obtain ⟨added, stop⟩ := found
    dsimp only [finish]
    split
    · refine (safe_modify fun s within => ?_).bind fun _ _ => .pure trivial
      exact ⟨within.rest, fun _ => asked⟩
    split
    · exact keeps_fail_bind
    split
    · refine keeps_next.bind fun letter _ => ?_
      cases letter with
      | none => exact keeps_fail_bind
      | some letter =>
          refine (safe_flagLetters _ fuel letter []).bind fun removed _ => ?_
          split
          · exact keeps_fail_bind
          · exact .pure trivial
    · exact .pure trivial
  split
  · exact finishes ([], first)
  · exact (safe_flagLetters _ fuel first []).bind fun found _ => finishes found

theorem safe_conditionGroup : Safe text conditionGroup := by
  refine (safe_upTo _).bind fun name _ => ?_
  extract_lets finish
  have finishes (number : Nat) : Safe text (finish number) :=
    (safe_checkLookBehind number).bind fun _ _ => .pure trivial
  split
  · exact (safe_numberOf name).bind fun number _ => finishes number
  · split
    · dsimp only
      split
      · exact keeps_fail_bind
      · refine (safe_modify fun s within => ?_).bind fun _ _ => finishes _
        exact ⟨within.rest, within.flags⟩
    · exact keeps_fail_bind

theorem safe_groupName (stop : Char) : Safe text (groupName stop) := by
  refine (safe_upTo stop).bind fun name _ => ?_
  split
  · exact .pure trivial
  · exact keeps_fail

theorem safe_skipLine : Safe text skipLine := by
  refine Keeps.get_bind fun s within => ?_
  refine safe_goTo within fun token member => ?_
  exact (List.dropWhile_sublist _).subset (List.drop_subset 1 _ member)

theorem safe_closing : Safe text closing := by
  refine (keeps_accept _).bind fun closed _ => ?_
  split
  · exact keeps_fail
  · exact .pure trivial

/-- Everything that is read within some number of steps keeps to the text. What follows a question
    mark behind a parenthesis may turn on flags. -/
structure BodySafe (text : Text) (fuel : Nat) : Prop where
  alternatives : ∀ top verbose found, Safe text (alternatives top fuel verbose found)
  items : ∀ flagsAllowed verbose found, Safe text (items flagsAllowed fuel verbose found)
  capture : ∀ number verbose, Safe text (capture number fuel verbose)
  extension : CodePoint.ofChar '?' ∈ text →
    ∀ flagsAllowed verbose, Safe text (extension flagsAllowed fuel verbose)

namespace BodySafe

variable {fuel : Nat}

theorem alternatives_succ (body : BodySafe text fuel) (top verbose : Bool) (found : List Pattern) :
    Safe text (Pattern.alternatives top (fuel + 1) verbose found) := by
  unfold Pattern.alternatives
  refine (body.items _ _ _).bind fun p _ => ?_
  refine (keeps_accept '|').bind fun more _ => ?_
  split
  · exact Keeps.get_bind fun s _ => body.alternatives _ _ _
  · exact .pure trivial

theorem capture_succ (body : BodySafe text fuel) (number : Nat) (verbose : Bool) :
    Safe text (Pattern.capture number (fuel + 1) verbose) := by
  unfold Pattern.capture
  refine (body.alternatives _ _ _).bind fun p _ => ?_
  refine safe_closing.bind fun _ _ => ?_
  exact (safe_closeGroup _ _).bind fun _ _ => .pure trivial

theorem items_succ (body : BodySafe text fuel) (flagsAllowed verbose : Bool)
    (found : List Pattern) :
    Safe text (Pattern.items flagsAllowed (fuel + 1) verbose found) := by
  unfold Pattern.items
  refine keeps_peek.bind fun token stands => ?_
  cases token with
  | none => exact .pure trivial
  | some token =>
      refine .ite (fun _ => .pure trivial) fun _ => ?_
      refine keeps_next.discard.bind fun _ _ => ?_
      cases token with
      | escape c => exact (safe_escape c).bind fun _ _ => body.items _ _ _
      | plain c =>
          refine .ite (fun _ => body.items _ _ _) fun _ => ?_
          refine .ite (fun _ => safe_skipLine.bind fun _ _ => body.items _ _ _) fun _ => ?_
          refine .ite (fun _ => safe_setAtom.bind fun _ _ => body.items _ _ _) fun _ => ?_
          refine .ite (fun repeats => ?_) fun _ => ?_
          · refine (safe_counts stands repeats).bind fun counted _ => ?_
            cases counted with
            | none => exact body.items _ _ _
            | some bounds =>
                cases found with
                | nil => exact keeps_fail
                | cons item before =>
                    exact (safe_repeated _ _ _).bind fun _ _ => body.items _ _ _
          refine .ite (fun _ => body.items _ _ _) fun _ => ?_
          refine .ite (fun _ => body.items _ _ _) fun _ => ?_
          refine .ite (fun _ => body.items _ _ _) fun _ => ?_
          refine .ite (fun _ => ?_) fun _ => body.items _ _ _
          refine (keeps_accept '?').bind fun asks asked => .ite (fun yes => ?_) fun _ => ?_
          · refine (body.extension (asked yes) _ _).bind fun p _ => ?_
            cases p with
            | some p => exact body.items _ _ _
            | none => exact Keeps.get_bind fun s _ => body.items _ _ _
          · refine (safe_openGroup none).bind fun number _ => ?_
            exact (body.capture _ _).bind fun _ _ => body.items _ _ _

theorem extension_succ (body : BodySafe text fuel) (asked : CodePoint.ofChar '?' ∈ text)
    (flagsAllowed verbose : Bool) :
    Safe text (Pattern.extension flagsAllowed (fuel + 1) verbose) := by
  have group (verbose : Bool) (f : Pattern → Pattern) : Safe text (do
      let p ← Pattern.alternatives false fuel verbose []
      closing
      return some (f p)) :=
    (body.alternatives _ _ _).bind fun _ _ => safe_closing.bind fun _ _ => .pure trivial
  unfold Pattern.extension
  refine keeps_next.bind fun token _ => ?_
  cases token with
  | none => exact keeps_fail
  | some token =>
      cases token with
      | escape c => exact keeps_fail
      | plain c =>
          dsimp only
          refine .ite (fun _ => ?named) fun _ => .ite (fun _ => ?plain) fun _ =>
            .ite (fun _ => ?comment) fun _ => .ite (fun _ => ?lookAhead) fun _ =>
            .ite (fun _ => ?lookBehind) fun _ => .ite (fun _ => ?conditional) fun _ =>
            .ite (fun _ => ?atomic) fun _ => ?flags
          case plain | lookAhead | atomic => exact group _ _
          case named =>
            refine (keeps_accept '<').bind fun _ _ => .ite (fun _ => ?_) fun _ => ?_
            · refine (safe_groupName _).bind fun name _ => ?_
              refine (safe_openGroup _).bind fun number _ => ?_
              exact (body.capture _ _).bind fun _ _ => .pure trivial
            refine (keeps_accept '=').bind fun _ _ => .ite (fun _ => ?_) fun _ => keeps_fail
            refine (safe_groupName _).bind fun name _ => ?_
            refine (safe_numberOf _).bind fun number _ => ?_
            exact (safe_reference _).bind fun _ _ => .pure trivial
          case comment =>
            refine Keeps.get_bind fun s within => .ite (fun _ => keeps_fail_bind) fun _ => ?_
            refine (safe_goTo within fun token member => ?_).bind fun _ _ => .pure trivial
            exact (List.dropWhile_sublist _).subset (List.drop_subset 1 _ member)
          case lookBehind =>
            refine keeps_next.bind fun token _ => ?_
            cases token with
            | none => exact keeps_fail
            | some token =>
                cases token with
                | escape d => exact keeps_fail
                | plain d =>
                    refine .ite (fun _ => ?_) fun _ => keeps_fail
                    refine Keeps.get_bind fun s _ => ?_
                    refine (safe_modify fun _ within => ?_).bind fun _ _ => ?_
                    · exact ⟨within.rest, within.flags⟩
                    refine (body.alternatives _ _ _).bind fun p _ => ?_
                    refine (safe_modify fun _ within => ?_).bind fun _ _ => ?_
                    · exact ⟨within.rest, within.flags⟩
                    exact safe_closing.bind fun _ _ => .pure trivial
          case conditional =>
            refine safe_conditionGroup.bind fun number _ => ?_
            refine (body.items _ _ _).bind fun yes _ => ?_
            refine (keeps_accept '|').bind fun other _ => ?_
            refine .ite (fun _ => ?_) fun _ => safe_closing.bind fun _ _ => .pure trivial
            exact (body.items _ _ _).bind fun no _ => safe_closing.bind fun _ _ => .pure trivial
          case flags =>
            refine (safe_groupFlags asked _).bind fun changes _ => ?_
            cases changes with
            | none => exact .ite (fun _ => .pure trivial) fun _ => keeps_fail
            | some changes => exact group _ _

end BodySafe

theorem bodySafe (text : Text) (fuel : Nat) : BodySafe text fuel := by
  induction fuel with
  | zero =>
      exact ⟨fun _ _ _ => keeps_fail, fun _ _ _ => keeps_fail, fun _ _ => keeps_fail,
        fun _ _ _ => keeps_fail⟩
  | succ fuel body =>
      exact ⟨body.alternatives_succ, body.items_succ, body.capture_succ, body.extension_succ⟩

theorem safe_whole : Safe text whole := by
  refine Keeps.get_bind fun s within => ?_
  refine (safe_goTo within (List.Subset.refl _)).bind fun _ _ => ?_
  refine ((bodySafe text _).alternatives _ _ _).bind fun p _ => ?_
  refine Keeps.get_bind fun s within => ?_
  refine .ite (fun conflict => keeps_throw_bind ?_) fun _ => ?_
  · refine within.flags fun none => ?_
    rw [none] at conflict
    cases conflict
  refine .ite (fun _ => keeps_fail_bind) fun _ => ?_
  refine .ite (fun _ => keeps_fail_bind) fun _ => ?_
  exact .ite (fun _ => keeps_fail_bind) fun _ => .pure trivial

theorem mem_of_mem_ofText {c : CodePoint} (t : Text) (member : .plain c ∈ (Token.ofText t).1) :
    c ∈ t := by
  fun_induction Token.ofText t with
  | case1 | case2 => cases member
  | case3 d plain =>
      cases List.mem_singleton.mp member
      exact List.mem_cons_self
  | case4 d rest tokens dangling read ih =>
      rw [read] at ih
      rcases List.mem_cons.mp member with same | behind
      · cases same
      · exact List.mem_cons_of_mem _ (List.mem_cons_of_mem _ (ih behind))
  | case5 first d rest plain tokens dangling read ih =>
      rw [read] at ih
      rcases List.mem_cons.mp member with same | behind
      · cases same
        exact List.mem_cons_self
      · exact List.mem_cons_of_mem _ (ih behind)

/-- A text is refused for what it has: as malformed, for a count behind a brace, or for flags behind a
    question mark. -/
theorem found_of_refused {t : Text} {e : Error} (refused : compile t = .error e) : e.FoundIn t := by
  have within : ParseState.Within t
      ⟨(Token.ofText t).1, (Token.ofText t).2, [], [], none, [], []⟩ :=
    ⟨fun c => mem_of_mem_ofText t, fun on => absurd rfl on⟩
  have read := safe_whole _ within
  simp only [compile] at refused
  split at refused
  · cases refused
  · next found =>
      cases refused
      exact read.of_error found

end UnitRouting.Pattern
