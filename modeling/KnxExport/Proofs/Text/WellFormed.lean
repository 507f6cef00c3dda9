import KnxExport.Proofs.Except
import KnxExport.Proofs.Text.Utf8

/-!
# Bytes that are UTF-8

Bytes that are read as a text are the bytes of this text, so the decoder accepts well-formed bytes
only. The ranges of the bytes behind a lead byte are what makes this so: a sequence within them has
the length that its character needs, and its value is a code point.

Main statement: `decode_eq_ok_iff`, by induction over the characters that are read. It rests on
`exists_encodeChar_of_decodeFrom`, the first of them, with a case for each number of bytes.
-/

namespace KnxExport.Utf8

/-! ## The bytes of a sequence -/

/-- The ranges behind a lead byte are those of a sequence of one, two, three or four bytes. -/
theorem followers?_cases {b : UInt8} {ranges : List ByteRange} (h : followers? b = some ranges) :
    (b.toNat ≤ 0x7f ∧ ranges = []) ∨
    (0xc2 ≤ b.toNat ∧ b.toNat ≤ 0xdf ∧ ranges = [continuation]) ∨
    (0xe0 ≤ b.toNat ∧ b.toNat ≤ 0xef ∧ ∃ range : ByteRange, ranges = [range, continuation] ∧
      ∀ c : UInt8, range.contains c = true → 0x80 ≤ c.toNat ∧ c.toNat ≤ 0xbf ∧
        (b.toNat = 0xe0 → 0xa0 ≤ c.toNat) ∧ (b.toNat = 0xed → c.toNat ≤ 0x9f)) ∨
    (0xf0 ≤ b.toNat ∧ b.toNat ≤ 0xf4 ∧
      ∃ range : ByteRange, ranges = [range, continuation, continuation] ∧
        ∀ c : UInt8, range.contains c = true → 0x80 ≤ c.toNat ∧ c.toNat ≤ 0xbf ∧
          (b.toNat = 0xf0 → 0x90 ≤ c.toNat) ∧ (b.toNat = 0xf4 → c.toNat ≤ 0x8f)) := by
  unfold followers? at h
  simp only [UInt8.le_iff_toNat_le, UInt8.lt_iff_toNat_lt, ← UInt8.toNat_inj,
    UInt8.reduceToNat] at h
  split_ifs at h
  all_goals obtain rfl := Option.some.inj h
  · exact .inl ⟨by omega, rfl⟩
  · exact .inr (.inl ⟨by omega, by omega, rfl⟩)
  -- The lead bytes of three, of which the first and the one before the last narrow what follows.
  iterate 3
    · refine .inr (.inr (.inl ⟨by omega, by omega, _, rfl, ?_⟩))
      intro c hc
      have hbounds := ByteRange.contains_iff.mp hc
      simp only [continuation, UInt8.reduceToNat] at hbounds
      omega
  -- The lead bytes of four, of which the first and the last narrow what follows.
  iterate 3
    · refine .inr (.inr (.inr ⟨by omega, by omega, _, rfl, ?_⟩))
      intro c hc
      have hbounds := ByteRange.contains_iff.mp hc
      simp only [continuation, UInt8.reduceToNat] at hbounds
      omega

/-- The bounds of a continuation. -/
theorem bounds_of_continuation {b : UInt8} (h : continuation.contains b = true) :
    0x80 ≤ b.toNat ∧ b.toNat ≤ 0xbf :=
  ByteRange.contains_iff.mp h

/-- The byte with a value. -/
theorem ofNat_eq {n : Nat} {b : UInt8} (h : n = b.toNat) : UInt8.ofNat n = b := by
  rw [h, UInt8.ofNat_toNat]

/-- The value of a code point. -/
theorem val_ofNat {n : Nat} (h : n.isValidChar) : (Char.ofNat n).val.toNat = n := by
  rw [Char.ofNat, dif_pos h]
  rfl

section Sequences

variable {a b c d : UInt8}

/-- A sequence of one byte is an ASCII character. -/
theorem encodeChar_one (ha : a.toNat ≤ 0x7f) :
    String.utf8EncodeChar (Char.ofNat a.toNat) = [a] := by
  unfold String.utf8EncodeChar
  simp only [val_ofNat (n := a.toNat) (.inl (by omega))]
  rw [if_pos ha, ofNat_eq rfl]

/-- A sequence of two bytes is its character. -/
theorem encodeChar_two (ha : 0xc2 ≤ a.toNat ∧ a.toNat ≤ 0xdf)
    (hb : 0x80 ≤ b.toNat ∧ b.toNat ≤ 0xbf) :
    String.utf8EncodeChar (Char.ofNat (a.toNat % 32 * 64 + b.toNat % 64)) = [a, b] := by
  unfold String.utf8EncodeChar
  simp only [val_ofNat (n := a.toNat % 32 * 64 + b.toNat % 64) (.inl (by omega))]
  rw [if_neg (by omega), if_pos (by omega), ofNat_eq (b := a) (by omega),
    ofNat_eq (b := b) (by omega)]

/-- A sequence of three bytes is its character, and no surrogate. -/
theorem encodeChar_three (ha : 0xe0 ≤ a.toNat ∧ a.toNat ≤ 0xef)
    (hb : 0x80 ≤ b.toNat ∧ b.toNat ≤ 0xbf ∧ (a.toNat = 0xe0 → 0xa0 ≤ b.toNat) ∧
      (a.toNat = 0xed → b.toNat ≤ 0x9f))
    (hc : 0x80 ≤ c.toNat ∧ c.toNat ≤ 0xbf) :
    String.utf8EncodeChar
      (Char.ofNat ((a.toNat % 16 * 64 + b.toNat % 64) * 64 + c.toNat % 64)) = [a, b, c] := by
  have hvalid : Nat.isValidChar ((a.toNat % 16 * 64 + b.toNat % 64) * 64 + c.toNat % 64) := by
    unfold Nat.isValidChar
    omega
  unfold String.utf8EncodeChar
  simp only [val_ofNat hvalid]
  rw [if_neg (by omega), if_neg (by omega), if_pos (by omega), ofNat_eq (b := a) (by omega),
    ofNat_eq (b := b) (by omega), ofNat_eq (b := c) (by omega)]

/-- A sequence of four bytes is its character, and not past the last code point. -/
theorem encodeChar_four (ha : 0xf0 ≤ a.toNat ∧ a.toNat ≤ 0xf4)
    (hb : 0x80 ≤ b.toNat ∧ b.toNat ≤ 0xbf ∧ (a.toNat = 0xf0 → 0x90 ≤ b.toNat) ∧
      (a.toNat = 0xf4 → b.toNat ≤ 0x8f))
    (hc : 0x80 ≤ c.toNat ∧ c.toNat ≤ 0xbf) (hd : 0x80 ≤ d.toNat ∧ d.toNat ≤ 0xbf) :
    String.utf8EncodeChar
      (Char.ofNat (((a.toNat % 8 * 64 + b.toNat % 64) * 64 + c.toNat % 64) * 64 +
        d.toNat % 64)) = [a, b, c, d] := by
  have hvalid : Nat.isValidChar
      (((a.toNat % 8 * 64 + b.toNat % 64) * 64 + c.toNat % 64) * 64 + d.toNat % 64) := by
    unfold Nat.isValidChar
    omega
  unfold String.utf8EncodeChar
  simp only [val_ofNat hvalid]
  rw [if_neg (by omega), if_neg (by omega), if_neg (by omega), ofNat_eq (b := a) (by omega),
    ofNat_eq (b := b) (by omega), ofNat_eq (b := c) (by omega), ofNat_eq (b := d) (by omega)]

end Sequences

/-! ## Encoding what has been decoded -/

section Steps

variable {valid bits length : Nat} {bytes : List UInt8} {range next : ByteRange}
  {ranges : List ByteRange} {chars : List Char}

/-- An open sequence that is read on has a byte in its range. -/
theorem exists_of_decodeFrom_follower
    (h : decodeFrom valid (some ⟨bits, length, range :: next :: ranges⟩) bytes = .ok chars) :
    ∃ b rest, bytes = b :: rest ∧ range.contains b = true ∧
      decodeFrom valid (some ⟨bits * 64 + b.toNat % 64, length + 1, next :: ranges⟩) rest =
        .ok chars := by
  rcases bytes with _ | ⟨b, rest⟩
  · cases h
  · by_cases hb : range.contains b = true
    · rw [decodeFrom_follower hb] at h
      exact ⟨b, rest, rfl, hb, h⟩
    · rw [decodeFrom, if_neg hb] at h
      cases h

/-- A sequence that is read to its end has a last byte in its range, which completes the first of
the characters. -/
theorem exists_of_decodeFrom_last
    (h : decodeFrom valid (some ⟨bits, length, [range]⟩) bytes = .ok chars) :
    ∃ b rest more, bytes = b :: rest ∧ range.contains b = true ∧
      chars = Char.ofNat (bits * 64 + b.toNat % 64) :: more ∧
      decodeFrom (valid + length + 1) none rest = .ok more := by
  rcases bytes with _ | ⟨b, rest⟩
  · cases h
  · by_cases hb : range.contains b = true
    · rw [decodeFrom_last hb] at h
      obtain ⟨more, hmore, rfl⟩ := map_eq_ok_iff.mp h
      exact ⟨b, rest, more, rfl, hb, rfl, hmore⟩
    · rw [decodeFrom, if_neg hb] at h
      cases h

end Steps

/-- The first of the characters that are read has the first of the bytes. -/
theorem exists_encodeChar_of_decodeFrom {valid : Nat} {a : UInt8} {bytes : List UInt8}
    {chars : List Char} (h : decodeFrom valid none (a :: bytes) = .ok chars) :
    ∃ c more rest valid', chars = c :: more ∧ a :: bytes = String.utf8EncodeChar c ++ rest ∧
      decodeFrom valid' none rest = .ok more := by
  rcases hfollowers : followers? a with _ | ranges
  · rw [decodeFrom, hfollowers] at h
    cases h
  rcases followers?_cases hfollowers with ⟨ha, rfl⟩ | ⟨hlo, hhi, rfl⟩ |
    ⟨hlo, hhi, range, rfl, hrange⟩ | ⟨hlo, hhi, range, rfl, hrange⟩
  · rw [decodeFrom, hfollowers] at h
    obtain ⟨more, hmore, rfl⟩ := map_eq_ok_iff.mp h
    refine ⟨_, more, bytes, _, rfl, ?_, hmore⟩
    rw [encodeChar_one ha]
    rfl
  · rw [decodeFrom_lead hfollowers] at h
    obtain ⟨b, rest, more, rfl, hb, rfl, hmore⟩ := exists_of_decodeFrom_last h
    refine ⟨_, more, rest, _, rfl, ?_, hmore⟩
    have hchar := encodeChar_two ⟨hlo, hhi⟩ (bounds_of_continuation hb)
    exact (congrArg (· ++ rest) hchar).symm
  · rw [decodeFrom_lead hfollowers] at h
    obtain ⟨b, after, rfl, hb, hnext⟩ := exists_of_decodeFrom_follower h
    obtain ⟨c, rest, more, rfl, hc, rfl, hmore⟩ := exists_of_decodeFrom_last hnext
    refine ⟨_, more, rest, _, rfl, ?_, hmore⟩
    have hchar := encodeChar_three ⟨hlo, hhi⟩ (hrange b hb) (bounds_of_continuation hc)
    exact (congrArg (· ++ rest) hchar).symm
  · rw [decodeFrom_lead hfollowers] at h
    obtain ⟨b, after, rfl, hb, hsecond⟩ := exists_of_decodeFrom_follower h
    obtain ⟨c, after, rfl, hc, hthird⟩ := exists_of_decodeFrom_follower hsecond
    obtain ⟨d, rest, more, rfl, hd, rfl, hmore⟩ := exists_of_decodeFrom_last hthird
    refine ⟨_, more, rest, _, rfl, ?_, hmore⟩
    have hchar := encodeChar_four ⟨hlo, hhi⟩ (hrange b hb) (bounds_of_continuation hc)
      (bounds_of_continuation hd)
    exact (congrArg (· ++ rest) hchar).symm

/-- Bytes that are read as characters are the bytes of these characters. -/
theorem eq_flatMap_of_decodeFrom {valid : Nat} {bytes : List UInt8} {chars : List Char}
    (h : decodeFrom valid none bytes = .ok chars) :
    bytes = chars.flatMap String.utf8EncodeChar := by
  induction chars generalizing valid bytes with
  | nil =>
    rcases bytes with _ | ⟨a, bytes⟩
    · rfl
    · obtain ⟨c, more, rest, valid', hcons, -, -⟩ := exists_encodeChar_of_decodeFrom h
      cases hcons
  | cons c chars ih =>
    rcases bytes with _ | ⟨a, bytes⟩
    · cases h
    · obtain ⟨d, more, rest, valid', hcons, hbytes, hmore⟩ := exists_encodeChar_of_decodeFrom h
      cases hcons
      rw [hbytes, ih hmore, List.flatMap_cons]

/-- **The bytes that are read as a text are those of the text.** -/
theorem decode_eq_ok_iff {bytes : List UInt8} {text : String} :
    decode bytes = .ok text ↔ bytes = encode text := by
  constructor
  · intro h
    obtain ⟨chars, hchars, rfl⟩ := map_eq_ok_iff.mp h
    rw [encode, String.toList_ofList, eq_flatMap_of_decodeFrom hchars]
  · rintro rfl
    exact decode_encode text

/-- Bytes that start with those of a character are read as this character first. -/
theorem eq_of_encodeChar_append {c d : Char} {rest : List UInt8} {chars : List Char}
    (h : String.utf8EncodeChar d ++ rest = (c :: chars).flatMap String.utf8EncodeChar) :
    d = c := by
  have hread := decodeFrom_flatMap_encodeChar 0 (c :: chars)
  rw [← h, decodeFrom_encodeChar] at hread
  obtain ⟨more, -, hcons⟩ := map_eq_ok_iff.mp hread
  exact (List.cons.inj hcons).1

end KnxExport.Utf8
