import UnitRouting.Text.Utf8

/-! # Text as bytes and back

The bytes of a text without surrogates are read back as the text: every code point is one piece of
its own, of as many bytes as it was written with. -/

namespace UnitRouting

theorem CodePoint.ofNat_val (c : CodePoint) : ofNat c.val = c := by
  simp only [ofNat, c.isLt, dif_pos]

theorem CodePoint.isSurrogate_eq_false {c : CodePoint} :
    c.isSurrogate = false ↔ c.val < 0xD800 ∨ 0xDFFF < c.val := by
  simp only [isSurrogate, Bool.and_eq_false_iff, decide_eq_false_iff_not]
  omega

namespace Utf8

variable {surrogates : Bool} {low high count used bits n : Nat} {c : CodePoint} {rest : Bytes}

theorem toNat_byte (byte : n < 256) : (UInt8.ofNat n).toNat = n :=
  UInt8.toNat_ofNat_of_lt' byte

theorem readTail_byte (lower : low ≤ n) (upper : n ≤ high) (byte : n < 256) :
    readTail low high (count + 1) used bits (.ofNat n :: rest) =
      readTail 0x80 0xBF count (used + 1) (64 * bits + (n - 0x80)) rest := by
  simp only [readTail, toNat_byte byte, lower, upper, and_self, if_true]

theorem piece_one (small : c.val < 0x80) : piece false (.ofNat c.val) rest = ⟨.ok c, 0⟩ := by
  rw [piece, toNat_byte (by omega), lead?, if_pos small]
  simp only [readTail, c.ofNat_val]

theorem piece_two (large : 0x80 ≤ c.val) (small : c.val < 0x800) :
    piece false (.ofNat (0xC0 + c.val / 64)) (.ofNat (0x80 + c.val / 1 % 64) :: rest) =
      ⟨.ok c, 1⟩ := by
  have lead : lead? false (0xC0 + c.val / 64) = some ⟨1, 0x80, 0xBF, c.val / 64⟩ := by
    rw [lead?, if_neg (by omega), if_neg (by omega), if_pos (by omega), Nat.add_sub_cancel_left]
  have sum : 64 * (c.val / 64) + (0x80 + c.val / 1 % 64 - 0x80) = c.val := by omega
  rw [piece, toNat_byte (by omega), lead]
  dsimp only
  rw [readTail_byte (by omega) (by omega) (by omega), sum, readTail, c.ofNat_val]

/-- A second byte that is too small would write a shorter form, and one that is too large a
    surrogate. -/
theorem piece_three (scalar : c.isSurrogate = false) (large : 0x800 ≤ c.val)
    (small : c.val < 0x10000) :
    piece false (.ofNat (0xE0 + c.val / 0x1000))
      (.ofNat (0x80 + c.val / 64 % 64) :: .ofNat (0x80 + c.val / 1 % 64) :: rest) =
        ⟨.ok c, 2⟩ := by
  have outside := CodePoint.isSurrogate_eq_false.mp scalar
  have lead : lead? false (0xE0 + c.val / 0x1000) =
      some ⟨2, if 0xE0 + c.val / 0x1000 = 0xE0 then 0xA0 else 0x80,
        if 0xE0 + c.val / 0x1000 = 0xED ∧ false = false then 0x9F else 0xBF, c.val / 0x1000⟩ := by
    rw [lead?, if_neg (by omega), if_neg (by omega), if_neg (by omega), if_pos (by omega),
      Nat.add_sub_cancel_left]
  have lower : (if 0xE0 + c.val / 0x1000 = 0xE0 then 0xA0 else 0x80) ≤ 0x80 + c.val / 64 % 64 := by
    split <;> omega
  have upper : 0x80 + c.val / 64 % 64 ≤
      if 0xE0 + c.val / 0x1000 = 0xED ∧ false = false then 0x9F else 0xBF := by
    split <;> omega
  have sum : 64 * (64 * (c.val / 0x1000) + (0x80 + c.val / 64 % 64 - 0x80)) +
      (0x80 + c.val / 1 % 64 - 0x80) = c.val := by omega
  rw [piece, toNat_byte (by omega), lead]
  dsimp only
  rw [readTail_byte lower upper (by omega), readTail_byte (by omega) (by omega) (by omega), sum,
    readTail, c.ofNat_val]

/-- A second byte that is too small would write a shorter form, and one that is too large a number
    beyond the last code point. -/
theorem piece_four (large : 0x10000 ≤ c.val) :
    piece false (.ofNat (0xF0 + c.val / 0x40000))
      (.ofNat (0x80 + c.val / 0x1000 % 64) :: .ofNat (0x80 + c.val / 64 % 64) ::
        .ofNat (0x80 + c.val / 1 % 64) :: rest) = ⟨.ok c, 3⟩ := by
  have last := c.isLt
  have lead : lead? false (0xF0 + c.val / 0x40000) =
      some ⟨3, if 0xF0 + c.val / 0x40000 = 0xF0 then 0x90 else 0x80,
        if 0xF0 + c.val / 0x40000 = 0xF4 then 0x8F else 0xBF, c.val / 0x40000⟩ := by
    rw [lead?, if_neg (by omega), if_neg (by omega), if_neg (by omega), if_neg (by omega),
      if_pos (by omega), Nat.add_sub_cancel_left]
  have lower :
      (if 0xF0 + c.val / 0x40000 = 0xF0 then 0x90 else 0x80) ≤ 0x80 + c.val / 0x1000 % 64 := by
    split <;> omega
  have upper : 0x80 + c.val / 0x1000 % 64 ≤
      if 0xF0 + c.val / 0x40000 = 0xF4 then 0x8F else 0xBF := by
    split <;> omega
  have sum : 64 * (64 * (64 * (c.val / 0x40000) + (0x80 + c.val / 0x1000 % 64 - 0x80)) +
      (0x80 + c.val / 64 % 64 - 0x80)) + (0x80 + c.val / 1 % 64 - 0x80) = c.val := by omega
  rw [piece, toNat_byte (by omega), lead]
  dsimp only
  rw [readTail_byte lower upper (by omega), readTail_byte (by omega) (by omega) (by omega),
    readTail_byte (by omega) (by omega) (by omega), sum, readTail, c.ofNat_val]

/-- The first byte of a code point announces the others, and together they are read as it. -/
theorem piece_encodePoint (scalar : c.isSurrogate = false) :
    ∃ b others, encodePoint c = b :: others ∧
      ∀ rest, piece false b (others ++ rest) = ⟨.ok c, others.length⟩ := by
  unfold encodePoint
  by_cases one : c.val < 0x80
  · exact ⟨_, _, if_pos one, fun rest => piece_one one⟩
  by_cases two : c.val < 0x800
  · exact ⟨_, _, (if_neg one).trans (if_pos two), fun rest => piece_two (by omega) two⟩
  by_cases three : c.val < 0x10000
  · exact ⟨_, _, (if_neg one).trans ((if_neg two).trans (if_pos three)),
      fun rest => piece_three scalar (by omega) three⟩
  · exact ⟨_, _, (if_neg one).trans ((if_neg two).trans (if_neg three)),
      fun rest => piece_four (by omega)⟩

theorem encode_cons (c : CodePoint) (t : Text) : encode (c :: t) = encodePoint c ++ encode t :=
  List.flatMap_cons

theorem encode_append (front back : Text) : encode (front ++ back) = encode front ++ encode back :=
  List.flatMap_append

theorem piecesAfter_append (front rest : Bytes) :
    piecesAfter surrogates front.length (front ++ rest) = piecesAfter surrogates 0 rest := by
  induction front with
  | nil => rfl
  | cons b front ih => simpa only [List.length_cons, List.cons_append, piecesAfter] using ih

theorem pieces_encode_cons (scalar : c.isSurrogate = false) (rest : Bytes) :
    ∃ extra, pieces false (encodePoint c ++ rest) = ⟨.ok c, extra⟩ :: pieces false rest := by
  obtain ⟨b, others, bytes, read⟩ := piece_encodePoint scalar
  refine ⟨others.length, ?_⟩
  simp only [pieces, bytes, List.cons_append, piecesAfter, read, piecesAfter_append]

theorem decodeReplacing_encode {t : Text} (scalars : ∀ c ∈ t, c.isSurrogate = false) :
    decodeReplacing (encode t) = t := by
  induction t with
  | nil => rfl
  | cons c rest ih =>
      obtain ⟨scalar, later⟩ := List.forall_mem_cons.mp scalars
      obtain ⟨extra, first⟩ := pieces_encode_cons scalar (encode rest)
      have read := ih later
      rw [decodeReplacing] at read ⊢
      rw [encode_cons, first, List.map_cons, read]

end Utf8

end UnitRouting
