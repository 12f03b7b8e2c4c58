import UnitRouting.Proofs.Json.Grammar

/-! # Reading the leaves of documents

What the reader takes for the body of a text or for a number is one by the grammar, and it reads all of
these, up to where they end. Of a number it takes as much as it can, so where an integer is found to be
too long nothing goes on with it. -/

namespace UnitRouting.Json

open Outcome

/-- Reading comes to what is left, unless it stops at an integer that is too long. -/
def Passes {α : Type} (result : Except ReadError (α × Text)) (rest : Text) : Prop :=
  (∃ a, result = .ok (a, rest)) ∨ result = .error .numeralTooLong

theorem isSome_simpleEscape? {c : CodePoint} :
    (simpleEscape? c).isSome = true ↔ c ∈ ("\"\\/bfnrt" : Text) := by
  have letters : ("\"\\/bfnrt" : Text) =
      ['"', '\\', '/', 'b', 'f', 'n', 'r', 't'].map CodePoint.ofChar := rfl
  simp only [letters, List.map_cons, List.map_nil, List.mem_cons, List.not_mem_nil, or_false,
    simpleEscape?]
  grind

theorem consText_eq_ok {c : CodePoint} {result : Except ReadError (Text × Text)} {body rest : Text}
    (read : consText c result = .ok (body, rest)) : ∃ tail, result = .ok (tail, rest) := by
  cases result with
  | ok pair =>
      cases read
      exact ⟨_, rfl⟩
  | error e => cases read

theorem isSome_hexUnit? {a b c d : CodePoint} :
    (hexUnit? a b c d).isSome = true ↔ ∀ digit ∈ [a, b, c, d], digit.hexDigit?.isSome = true := by
  simp only [hexUnit?, List.forall_mem_cons, List.not_mem_nil, false_implies, implies_true, and_true]
  cases a.hexDigit? <;> cases b.hexDigit? <;> cases c.hexDigit? <;> cases d.hexDigit? <;> simp

theorem eq_of_lowEscape? {t : Text} {n : Nat} (low : lowEscape? t = some n) :
    ∃ a b c d next tail, t = CodePoint.ofChar '\\' :: CodePoint.ofChar 'u' :: a :: b :: c :: d ::
      next :: tail ∧ (hexUnit? a b c d).isSome = true := by
  unfold lowEscape? at low
  split at low
  · split at low
    · next marks =>
        obtain ⟨written, -⟩ := Option.filter_eq_some_iff.mp low
        exact ⟨_, _, _, _, _, _, by rw [marks.1, marks.2], by rw [written]; rfl⟩
    · cases low
  · cases low

theorem IsBody.of_unit {a b c d : CodePoint} {rest : Text}
    (digits : (hexUnit? a b c d).isSome = true) (later : IsBody rest) :
    IsBody (CodePoint.ofChar '\\' :: CodePoint.ofChar 'u' :: a :: b :: c :: d :: rest) :=
  .unit (isSome_hexUnit?.mp digits) later

theorem isBody_of_readBody {opening t body rest : Text}
    (read : readBody opening t = .ok (body, rest)) :
    ∃ w, t = w ++ CodePoint.ofChar '"' :: rest ∧ IsBody w := by
  fun_induction readBody opening t generalizing body rest with
  | case1 | case3 | case4 | case7 | case9 | case10 => cases read
  | case2 =>
      cases read
      exact ⟨[], rfl, .nil⟩
  | case5 h₁ h₂ h₃ h₄ next tail unit digits low paired _ ih =>
      obtain ⟨_, inner⟩ := consText_eq_ok read
      split at paired
      · obtain ⟨a, b, c, d, follow, behind, escape, digits'⟩ := eq_of_lowEscape? paired
        cases escape
        obtain ⟨w, split, isBody⟩ := ih inner
        refine ⟨CodePoint.ofChar '\\' :: CodePoint.ofChar 'u' :: h₁ :: h₂ :: h₃ :: h₄ ::
          CodePoint.ofChar '\\' :: CodePoint.ofChar 'u' :: a :: b :: c :: d :: w, ?_, ?_⟩
        · simpa using split
        · exact .of_unit (by rw [digits]; rfl) (.of_unit digits' isBody)
      · cases paired
  | case6 h₁ h₂ h₃ h₄ next tail unit digits _ _ ih =>
      obtain ⟨_, inner⟩ := consText_eq_ok read
      obtain ⟨w, split, isBody⟩ := ih inner
      refine ⟨CodePoint.ofChar '\\' :: CodePoint.ofChar 'u' :: h₁ :: h₂ :: h₃ :: h₄ :: w, ?_, ?_⟩
      · rw [split]
        rfl
      · exact .of_unit (by rw [digits]; rfl) isBody
  | case8 e after _ d names _ ih =>
      obtain ⟨_, inner⟩ := consText_eq_ok read
      obtain ⟨w, rfl, isBody⟩ := ih inner
      refine ⟨CodePoint.ofChar '\\' :: e :: w, rfl, .letter ?_ isBody⟩
      exact isSome_simpleEscape?.mp (by rw [names]; rfl)
  | case11 c tail notQuote notBackslash visible ih =>
      obtain ⟨_, inner⟩ := consText_eq_ok read
      obtain ⟨w, rfl, isBody⟩ := ih inner
      exact ⟨c :: w, rfl, .plain notQuote notBackslash (Nat.not_le.mp visible) isBody⟩

theorem consText_succeeds {c : CodePoint} {result : Except ReadError (Text × Text)} {rest : Text}
    (read : ∃ tail, result = .ok (tail, rest)) : ∃ body, consText c result = .ok (body, rest) := by
  obtain ⟨tail, rfl⟩ := read
  exact ⟨c :: tail, rfl⟩

section Escapes

variable {a b c d next : CodePoint} {tail : Text} {unit : Nat}

theorem readBody_pair (opening : Text) (digits : hexUnit? a b c d = some unit) {low : Nat}
    (paired : (if isHighSurrogate unit then lowEscape? (next :: tail) else none) = some low) :
    readBody opening (CodePoint.ofChar '\\' :: CodePoint.ofChar 'u' :: a :: b :: c :: d :: next ::
      tail) = consText (pairValue unit low) (readBody opening (tail.drop 5)) := by
  rw [readBody.eq_def]
  dsimp only
  rw [if_neg (by decide), if_pos rfl, if_pos rfl]
  simp only [digits, paired]

theorem readBody_alone (opening : Text) (digits : hexUnit? a b c d = some unit)
    (alone : (if isHighSurrogate unit then lowEscape? (next :: tail) else none) = none) :
    readBody opening (CodePoint.ofChar '\\' :: CodePoint.ofChar 'u' :: a :: b :: c :: d :: next ::
      tail) = consText (.ofNat unit) (readBody opening (next :: tail)) := by
  rw [readBody.eq_def]
  dsimp only
  rw [if_neg (by decide), if_pos rfl, if_pos rfl]
  simp only [digits, alone]

end Escapes

/-- A body is read up to the quote behind it. An escape that the reader pairs with the one before it is
    read with it, so the induction is on the length. -/
theorem readBody_succeeds (opening rest : Text) {w : Text} (isBody : IsBody w) :
    ∃ body, readBody opening (w ++ CodePoint.ofChar '"' :: rest) = .ok (body, rest) := by
  induction size : w.length using Nat.strongRecOn generalizing w with
  | _ n ih =>
      subst size
      have ih {v : Text} (shorter : v.length < w.length) (inner : IsBody v) := ih _ shorter inner rfl
      cases isBody with
      | nil =>
          rw [List.nil_append, readBody.eq_def]
          exact ⟨[], rfl⟩
      | plain notQuote notBackslash notControl later =>
          rw [List.cons_append, readBody_raw opening notQuote notBackslash notControl]
          exact consText_succeeds (ih (by simp only [List.length_cons]; omega) later)
      | @letter c tail known later =>
          obtain ⟨d, names⟩ := Option.isSome_iff_exists.mp (isSome_simpleEscape?.mpr known)
          have notUnit : c ≠ CodePoint.ofChar 'u' := by
            rintro rfl
            revert known
            decide
          rw [List.cons_append, List.cons_append, readBody_simple opening names notUnit]
          exact consText_succeeds (ih (by simp only [List.length_cons]; omega) later)
      | @unit h₁ h₂ h₃ h₄ tail hexadecimal later =>
          obtain ⟨unit, digits⟩ := Option.isSome_iff_exists.mp (isSome_hexUnit?.mpr hexadecimal)
          obtain ⟨next, behind, follow⟩ : ∃ next behind,
              tail ++ CodePoint.ofChar '"' :: rest = next :: behind :=
            List.exists_cons_of_ne_nil (by simp)
          simp only [List.cons_append, follow]
          cases paired : if isHighSurrogate unit then lowEscape? (next :: behind) else none with
          | some low =>
              rw [readBody_pair opening digits paired]
              split at paired
              · obtain ⟨a, b, c, d, e, last, escape, -⟩ := eq_of_lowEscape? paired
                cases escape
                cases later with
                | nil => cases follow
                | plain _ notBackslash _ _ => exact absurd (List.cons.inj follow).1 notBackslash
                | @letter letter tail' known _ =>
                    simp only [List.cons_append, List.cons.injEq] at follow
                    obtain ⟨-, rfl, -⟩ := follow
                    exact absurd known (by decide)
                | @unit _ _ _ _ tail' _ inner =>
                    simp only [List.cons_append, List.cons.injEq, true_and] at follow
                    obtain ⟨-, -, -, -, behind⟩ := follow
                    have shorter := ih (by simp only [List.length_cons]; omega) inner
                    rw [behind] at shorter
                    exact consText_succeeds shorter
              · cases paired
          | none =>
              rw [readBody_alone opening digits paired, ← follow]
              exact consText_succeeds (ih (by simp only [List.length_cons]; omega) later)

theorem isDigits_takeWhile {t : Text} (nonempty : (t.takeWhile CodePoint.isDigit).isEmpty = false) :
    IsDigits (t.takeWhile CodePoint.isDigit) := by
  refine ⟨by simpa using nonempty, ?_⟩
  intro c member
  exact List.mem_takeWhile_imp member

theorem wholeDigits?_eq_some {t whole rest : Text} (read : wholeDigits? t = some (whole, rest)) :
    t = whole ++ rest ∧ IsWhole whole ∧ (1 < whole.length → Text.NoDigit rest) := by
  cases t with
  | nil => cases read
  | cons c tail =>
      simp only [wholeDigits?] at read
      split at read
      · next zero =>
          cases read
          refine ⟨rfl, ⟨⟨List.cons_ne_nil _ _, ?_⟩, ?_⟩, ?_⟩
          · simp [zero]
            decide
          · rintro rest ⟨-, rfl⟩
            rfl
          · intro long
            cases long
            contradiction
      · next other =>
          split at read
          · next digit =>
              cases read
              have starts : ((c :: tail).takeWhile CodePoint.isDigit) =
                  c :: tail.takeWhile CodePoint.isDigit := by
                rw [List.takeWhile_cons, if_pos digit]
              refine ⟨List.takeWhile_append_dropWhile.symm, ⟨?_, ?_⟩, fun _ => Text.noDigit_dropWhile _⟩
              · exact isDigits_takeWhile (by rw [starts]; rfl)
              · intro rest zero
                rw [starts] at zero
                exact absurd (List.cons.inj zero).1 other
          · cases read

theorem wholeDigits?_append {whole rest : Text} (isWhole : IsWhole whole) (ends : Text.NoDigit rest) :
    wholeDigits? (whole ++ rest) = some (whole, rest) := by
  obtain ⟨⟨nonempty, digits⟩, zero⟩ := isWhole
  obtain ⟨c, tail, rfl⟩ := List.exists_cons_of_ne_nil nonempty
  have spans := Text.span_digits digits ends
  rw [List.cons_append] at spans ⊢
  simp only [wholeDigits?]
  split
  · next first =>
      rw [zero tail (by rw [first])]
      rfl
  · rw [if_pos (digits c List.mem_cons_self), spans.1, spans.2]

theorem fraction?_eq_some {t places rest : Text} (read : fraction? t = some (places, rest)) :
    ∃ w, t = w ++ rest ∧ IsFraction w ∧ Text.NoDigit rest := by
  cases t with
  | nil => cases read
  | cons c tail =>
      simp only [fraction?] at read
      split at read
      · next point =>
          cases read
          refine ⟨c :: tail.takeWhile CodePoint.isDigit, ?_, ?_, Text.noDigit_dropWhile tail⟩
          · rw [List.cons_append, List.takeWhile_append_dropWhile]
          · rw [point.1]
            exact .point (isDigits_takeWhile point.2)
      · cases read

theorem fraction?_append {w rest : Text} (isFraction : IsFraction w) (ends : Text.NoDigit rest) :
    ∃ places, fraction? (w ++ rest) = some (places, rest) := by
  cases isFraction with
  | @point digits places =>
      have spans := Text.span_digits places.2 ends
      refine ⟨digits, ?_⟩
      have nonempty : digits.isEmpty = false := by simpa using places.1
      simp only [List.cons_append, fraction?, spans.1, spans.2, nonempty, and_self, if_true]

theorem eq_sign_append (t : Text) : ∃ sign ∈ [([] : Text), "+", "-"], t = sign ++ (Numeral.sign t).2 := by
  cases t with
  | nil => exact ⟨[], by simp, rfl⟩
  | cons c tail =>
      by_cases minus : c = CodePoint.ofChar '-'
      · exact ⟨"-", by simp, by simp [Numeral.sign, minus, Text.ofString]⟩
      · by_cases plus : c = CodePoint.ofChar '+'
        · refine ⟨"+", by simp, ?_⟩
          rw [plus]
          rfl
        · exact ⟨[], by simp, by simp [Numeral.sign, minus, plus]⟩

theorem sign_append {sign digits : Text} (signed : sign ∈ [([] : Text), "+", "-"])
    (isDigits : IsDigits digits) (rest : Text) :
    (Numeral.sign (sign ++ (digits ++ rest))).2 = digits ++ rest := by
  simp only [List.mem_cons, List.not_mem_nil, or_false] at signed
  rcases signed with rfl | rfl | rfl
  · obtain ⟨c, tail, rfl⟩ := List.exists_cons_of_ne_nil isDigits.1
    have digit := isDigits.2 c List.mem_cons_self
    have minus : c ≠ CodePoint.ofChar '-' := ne_of_isDigit digit (by decide)
    have plus : c ≠ CodePoint.ofChar '+' := ne_of_isDigit digit (by decide)
    simp only [List.nil_append, List.cons_append, Numeral.sign, if_neg minus, if_neg plus]
  · rfl
  · rfl

theorem exponent?_eq_some {t rest : Text} {power : Int} (read : exponent? t = some (power, rest)) :
    ∃ w, t = w ++ rest ∧ IsExponent w ∧ Text.NoDigit rest := by
  cases t with
  | nil => cases read
  | cons c tail =>
      simp only [exponent?] at read
      split at read
      · next letter =>
          cases read
          obtain ⟨sign, signed, split⟩ := eq_sign_append tail
          refine ⟨c :: (sign ++ (Numeral.sign tail).2.takeWhile CodePoint.isDigit), ?_,
            .power letter.1 signed (isDigits_takeWhile letter.2), Text.noDigit_dropWhile _⟩
          rw [List.cons_append, List.append_assoc, List.takeWhile_append_dropWhile, ← split]
      · cases read

theorem exponent?_append {w rest : Text} (isExponent : IsExponent w) (ends : Text.NoDigit rest) :
    ∃ power, exponent? (w ++ rest) = some (power, rest) := by
  cases isExponent with
  | @power letter sign digits named signed size =>
      have spans := Text.span_digits size.2 ends
      have unsigned := sign_append signed size rest
      have nonempty : digits.isEmpty = false := by simpa using size.1
      simp only [List.cons_append, List.append_assoc, exponent?, unsigned, spans.1, spans.2, nonempty,
        named, and_self, if_true]
      exact ⟨_, rfl⟩

/-- What the reader makes of the digits of an integer and of what stands behind them. -/
def afterWhole (limit : Option Nat) (negative : Bool) (whole rest : Text) :
    Except ReadError (Value × Text) :=
  match fraction? rest, exponent? ((fraction? rest).elim rest (·.2)) with
  | none, none =>
    if limit.any (· < whole.length) then .error .numeralTooLong
    else
      let size : Int := Text.digitsValue (Numeral.digitValues whole)
      .ok (.int (if negative then -size else size), rest)
  | fraction, exponent =>
    let places := fraction.elim [] (·.1)
    let rest := exponent.elim (fraction.elim rest (·.2)) (·.2)
    let power := exponent.elim 0 (·.1) - (places.length : Int)
    let digits := Text.digitsValue (Numeral.digitValues (whole ++ places))
    .ok (.float (.ofDecimal negative digits power), rest)

theorem number?_negative (limit : Option Nat) (t : Text) :
    number? limit (CodePoint.ofChar '-' :: t) =
      (wholeDigits? t).map fun parts => afterWhole limit true parts.1 parts.2 := by
  simp only [number?, if_true]
  rfl

theorem number?_positive (limit : Option Nat) {t : Text}
    (unsigned : ∀ tail, t ≠ CodePoint.ofChar '-' :: tail) :
    number? limit t = (wholeDigits? t).map fun parts => afterWhole limit false parts.1 parts.2 := by
  cases t with
  | nil => rfl
  | cons c tail =>
      have other : c ≠ CodePoint.ofChar '-' := by
        rintro rfl
        exact unsigned tail rfl
      simp only [number?, if_neg other]
      rfl

section Behind

variable {limit : Option Nat} {negative : Bool} {whole rest : Text}

theorem afterWhole_eq_ok {v : Value} {rest' : Text}
    (read : afterWhole limit negative whole rest = .ok (v, rest')) :
    ∃ fraction exponent, rest = fraction ++ (exponent ++ rest') ∧
      (fraction = [] ∨ IsFraction fraction) ∧ (exponent = [] ∨ IsExponent exponent) := by
  unfold afterWhole at read
  cases places : fraction? rest with
  | none =>
      cases power : exponent? rest with
      | none =>
          simp only [places, Option.elim_none, power] at read
          split at read
          · cases read
          · cases read
            exact ⟨[], [], rfl, .inl rfl, .inl rfl⟩
      | some pair =>
          simp only [places, Option.elim_none, power] at read
          cases read
          obtain ⟨w, rfl, isExponent, -⟩ := exponent?_eq_some power
          exact ⟨[], w, rfl, .inl rfl, .inr isExponent⟩
  | some pair =>
      obtain ⟨w, rfl, isFraction, -⟩ := fraction?_eq_some places
      cases power : exponent? pair.2 with
      | none =>
          simp only [places, Option.elim_some, power] at read
          cases read
          exact ⟨w, [], rfl, .inr isFraction, .inl rfl⟩
      | some pair' =>
          simp only [places, Option.elim_some, power] at read
          cases read
          obtain ⟨w', split, isExponent, -⟩ := exponent?_eq_some power
          exact ⟨w, w', by rw [split], .inr isFraction, .inr isExponent⟩

theorem afterWhole_eq_error {e : ReadError} :
    afterWhole limit negative whole rest = .error e ↔ e = .numeralTooLong ∧
      (∃ most, limit = some most ∧ most < whole.length) ∧
      fraction? rest = none ∧ exponent? rest = none := by
  unfold afterWhole
  cases places : fraction? rest with
  | none =>
      cases power : exponent? rest with
      | none =>
          simp only [Option.elim_none, power, and_true]
          cases limit with
          | none => simp
          | some most => by_cases long : most < whole.length <;> simp [long, eq_comm]
      | some pair => simp [power]
  | some pair => cases exponent? pair.2 <;> simp

theorem noDigit_append {w : Text} (part : IsFraction w ∨ IsExponent w) (rest : Text) :
    Text.NoDigit (w ++ rest) := by
  rintro c tail same
  rcases part with ⟨⟨_⟩⟩ | ⟨⟨named, _, _⟩⟩
  · cases same
    rfl
  · cases same
    rcases named with rfl | rfl <;> rfl

theorem noDigit_parts {fraction exponent : Text} (places : fraction = [] ∨ IsFraction fraction)
    (power : exponent = [] ∨ IsExponent exponent) (ends : EndsNumber rest) :
    Text.NoDigit (fraction ++ (exponent ++ rest)) := by
  rcases places with rfl | isFraction
  · rcases power with rfl | isExponent
    · exact ends.noDigit
    · exact noDigit_append (.inr isExponent) rest
  · exact noDigit_append (.inl isFraction) _

theorem afterWhole_passes {fraction exponent : Text} (places : fraction = [] ∨ IsFraction fraction)
    (power : exponent = [] ∨ IsExponent exponent) (ends : EndsNumber rest) :
    Passes (afterWhole limit negative whole (fraction ++ (exponent ++ rest))) rest := by
  have noDigit : Text.NoDigit (exponent ++ rest) := noDigit_parts (.inl rfl) power ends
  have behind : exponent? (exponent ++ rest) = none ∧ exponent = [] ∨
      ∃ n, exponent? (exponent ++ rest) = some (n, rest) := by
    rcases power with rfl | isExponent
    · exact .inl ⟨exponent?_none ends, rfl⟩
    · exact .inr (exponent?_append isExponent ends.noDigit)
  rcases places with rfl | isFraction
  · have none : fraction? (exponent ++ rest) = none := by
      rcases power with rfl | ⟨⟨named, _, _⟩⟩
      · exact fraction?_none ends
      · rcases named with rfl | rfl <;> rfl
    rw [List.nil_append, afterWhole, none]
    rcases behind with ⟨absent, rfl⟩ | ⟨n, found⟩
    · rw [List.nil_append] at absent
      simp only [List.nil_append, Option.elim_none, absent]
      split
      · exact .inr rfl
      · exact .inl ⟨_, rfl⟩
    · simp only [Option.elim_none, found]
      exact .inl ⟨_, rfl⟩
  · obtain ⟨digits, found⟩ := fraction?_append isFraction noDigit
    rw [afterWhole, found]
    rcases behind with ⟨absent, rfl⟩ | ⟨n, found'⟩
    · rw [List.nil_append] at absent
      simp only [List.nil_append, Option.elim_some, absent]
      exact .inl ⟨_, rfl⟩
    · simp only [Option.elim_some, found']
      exact .inl ⟨_, rfl⟩

end Behind

theorem IsDigits.append_takeWhile {digits : Text} (isDigits : IsDigits digits) (rest : Text) :
    IsDigits (digits ++ rest.takeWhile CodePoint.isDigit) := by
  refine ⟨by simp [isDigits.1], ?_⟩
  intro c member
  rcases List.mem_append.mp member with front | back
  · exact isDigits.2 c front
  · exact List.mem_takeWhile_imp back

theorem endsInteger_iff {rest : Text} :
    EndsInteger rest ↔ Text.NoDigit rest ∧ fraction? rest = none ∧ exponent? rest = none := by
  constructor
  · intro ends
    refine ⟨ends.digit, Option.eq_none_iff_forall_ne_some.mpr ?_,
      Option.eq_none_iff_forall_ne_some.mpr ?_⟩
    · rintro ⟨places, tail⟩ found
      obtain ⟨w, split, isFraction, -⟩ := fraction?_eq_some found
      exact ends.fraction w tail split isFraction
    · rintro ⟨power, tail⟩ found
      obtain ⟨w, split, isExponent, -⟩ := exponent?_eq_some found
      exact ends.exponent w tail split isExponent
  · rintro ⟨noDigit, noFraction, noExponent⟩
    refine ⟨noDigit, ?_, ?_⟩
    · rintro w tail rfl ⟨places⟩
      obtain ⟨_, found⟩ := fraction?_append (.point (places.append_takeWhile tail))
        (Text.noDigit_dropWhile tail)
      rw [← List.cons_append, List.append_assoc, List.takeWhile_append_dropWhile, noFraction] at found
      cases found
    · rintro w tail rfl ⟨named, signed, size⟩
      obtain ⟨_, found⟩ := exponent?_append (.power named signed (size.append_takeWhile tail))
        (Text.noDigit_dropWhile tail)
      rw [← List.append_assoc, ← List.cons_append, List.append_assoc,
        List.takeWhile_append_dropWhile, noExponent] at found
      cases found

theorem number?_eq_some {limit : Option Nat} {t : Text} {result : Except ReadError (Value × Text)}
    (read : number? limit t = some result) : ∃ sign negative whole rest,
      t = sign ++ (whole ++ rest) ∧ (sign = [] ∨ sign = [CodePoint.ofChar '-']) ∧ IsWhole whole ∧
        (1 < whole.length → Text.NoDigit rest) ∧ result = afterWhole limit negative whole rest := by
  by_cases minus : ∃ tail, t = CodePoint.ofChar '-' :: tail
  · obtain ⟨tail, rfl⟩ := minus
    rw [number?_negative] at read
    obtain ⟨⟨whole, rest⟩, digits, rfl⟩ := Option.map_eq_some_iff.mp read
    obtain ⟨rfl, isWhole, ends⟩ := wholeDigits?_eq_some digits
    exact ⟨[CodePoint.ofChar '-'], true, whole, rest, rfl, .inr rfl, isWhole, ends, rfl⟩
  · rw [number?_positive limit (not_exists.mp minus)] at read
    obtain ⟨⟨whole, rest⟩, digits, rfl⟩ := Option.map_eq_some_iff.mp read
    obtain ⟨rfl, isWhole, ends⟩ := wholeDigits?_eq_some digits
    exact ⟨[], false, whole, rest, rfl, .inl rfl, isWhole, ends, rfl⟩

theorem number?_append (limit : Option Nat) {sign whole rest : Text}
    (signed : sign = [] ∨ sign = [CodePoint.ofChar '-']) (isWhole : IsWhole whole)
    (ends : Text.NoDigit rest) : ∃ negative,
      number? limit (sign ++ (whole ++ rest)) = some (afterWhole limit negative whole rest) := by
  rcases signed with rfl | rfl
  · obtain ⟨c, tail, rfl⟩ := List.exists_cons_of_ne_nil isWhole.1.1
    have digit := isWhole.1.2 c List.mem_cons_self
    have unsigned : ∀ after, (c :: tail) ++ rest ≠ CodePoint.ofChar '-' :: after := by
      intro after same
      exact ne_of_isDigit digit (by decide) (List.cons.inj same).1
    rw [List.nil_append, number?_positive limit unsigned, wholeDigits?_append isWhole ends]
    exact ⟨false, rfl⟩
  · rw [List.singleton_append, number?_negative, wholeDigits?_append isWhole ends]
    exact ⟨true, rfl⟩

theorem isInteger_iff {t : Text} : IsInteger t ↔ ∃ sign whole, t = sign ++ whole ∧
    (sign = [] ∨ sign = [CodePoint.ofChar '-']) ∧ IsWhole whole := by
  constructor
  · rintro (⟨whole⟩ | ⟨whole⟩)
    · exact ⟨[], _, rfl, .inl rfl, whole⟩
    · exact ⟨[CodePoint.ofChar '-'], _, rfl, .inr rfl, whole⟩
  · rintro ⟨sign, whole, rfl, rfl | rfl, isWhole⟩
    · exact .positive isWhole
    · exact .negative isWhole

theorem longInteger_iff {limit : Nat} {t : Text} : LongInteger limit t ↔
    ∃ sign whole rest, t = sign ++ (whole ++ rest) ∧ (sign = [] ∨ sign = [CodePoint.ofChar '-']) ∧
      IsWhole whole ∧ limit < whole.length ∧ EndsInteger rest := by
  constructor
  · rintro (⟨whole, long, ends⟩ | ⟨whole, long, ends⟩)
    · exact ⟨[], _, _, rfl, .inl rfl, whole, long, ends⟩
    · exact ⟨[CodePoint.ofChar '-'], _, _, rfl, .inr rfl, whole, long, ends⟩
  · rintro ⟨sign, whole, rest, rfl, rfl | rfl, isWhole, long, ends⟩
    · rw [List.nil_append]
      exact .positive isWhole long ends
    · rw [List.singleton_append]
      exact .negative isWhole long ends

theorem isNumber_of_number? {limit : Option Nat} {t rest : Text} {v : Value}
    (read : number? limit t = some (.ok (v, rest))) : ∃ w, t = w ++ rest ∧ IsNumber w := by
  obtain ⟨sign, _, whole, _, rfl, signed, isWhole, -, result⟩ := number?_eq_some read
  obtain ⟨fraction, exponent, rfl, places, power⟩ := afterWhole_eq_ok result.symm
  refine ⟨(sign ++ whole) ++ (fraction ++ exponent), by simp only [List.append_assoc], ?_⟩
  exact .parts (isInteger_iff.mpr ⟨sign, whole, rfl, signed, isWhole⟩) places power

/-- One digit is never too many, so the digits that are stop for want of another. -/
theorem longInteger_of_number? {limit : Nat} (positive : 0 < limit) {t : Text} {e : ReadError}
    (read : number? (some limit) t = some (.error e)) :
    e = .numeralTooLong ∧ LongInteger limit t := by
  obtain ⟨sign, _, whole, rest, rfl, signed, isWhole, ends, result⟩ := number?_eq_some read
  obtain ⟨rfl, ⟨most, limited, long⟩, behind⟩ := afterWhole_eq_error.mp result.symm
  cases limited
  have noDigit := ends (by omega)
  exact ⟨rfl, longInteger_iff.mpr
    ⟨sign, whole, rest, rfl, signed, isWhole, long, endsInteger_iff.mpr ⟨noDigit, behind⟩⟩⟩

theorem number?_passes (limit : Option Nat) {w rest : Text} (isNumber : IsNumber w)
    (ends : EndsNumber rest) :
    ∃ result, number? limit (w ++ rest) = some result ∧ Passes result rest := by
  obtain ⟨isInteger, places, power⟩ := isNumber
  obtain ⟨sign, whole, rfl, signed, isWhole⟩ := isInteger_iff.mp isInteger
  have noDigit := noDigit_parts places power ends
  obtain ⟨negative, read⟩ := number?_append limit signed isWhole noDigit
  simp only [List.append_assoc]
  exact ⟨_, read, afterWhole_passes places power ends⟩

theorem number?_of_longInteger {limit : Nat} {t : Text} (long : LongInteger limit t) :
    number? (some limit) t = some (.error .numeralTooLong) := by
  obtain ⟨sign, whole, rest, rfl, signed, isWhole, long, ends⟩ := longInteger_iff.mp long
  obtain ⟨noDigit, behind⟩ := endsInteger_iff.mp ends
  obtain ⟨negative, read⟩ := number?_append (some limit) signed isWhole noDigit
  rw [read, afterWhole_eq_error.mpr ⟨rfl, ⟨limit, rfl, long⟩, behind⟩]

end UnitRouting.Json
