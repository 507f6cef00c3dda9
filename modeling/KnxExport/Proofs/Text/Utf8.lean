import Mathlib.Tactic.SplitIfs
import KnxExport.Text.Utf8

/-!
# Encoding and decoding UTF-8

A text is read back from its bytes, and the bytes of a text tell its ASCII characters: such a
character is one byte, and no byte of another character is one of these.

Main statement: `decode_encode`. It rests on `decodeFrom_encodeChar`, the bytes of one character,
with a case for each number of bytes, and goes by induction over the characters.
-/

namespace KnxExport.Utf8

/-! ## The bytes that follow a lead byte -/

/-- A range holds the bytes between its ends. -/
theorem ByteRange.contains_iff {range : ByteRange} {b : UInt8} :
    range.contains b = true ↔ range.1.toNat ≤ b.toNat ∧ b.toNat ≤ range.2.toNat := by
  simp [ByteRange.contains, UInt8.le_iff_toNat_le]

section Followers

variable {b : UInt8}

/-- An ASCII byte is a sequence of its own. -/
theorem followers?_ascii (h : b.toNat ≤ 0x7f) : followers? b = some [] := by
  unfold followers?
  rw [if_pos (UInt8.le_iff_toNat_le.mpr h)]

/-- A lead byte of two has any continuation behind it. -/
theorem followers?_two (hlo : 0xc2 ≤ b.toNat) (hhi : b.toNat ≤ 0xdf) :
    followers? b = some [continuation] := by
  unfold followers?
  simp only [UInt8.le_iff_toNat_le, UInt8.lt_iff_toNat_lt, UInt8.reduceToNat]
  rw [if_neg (by omega), if_neg (by omega), if_pos (by omega)]

/-- A lead byte of three has two continuations behind it, the first of which may be narrowed. -/
theorem exists_followers?_three (hlo : 0xe0 ≤ b.toNat) (hhi : b.toNat ≤ 0xef) :
    ∃ range : ByteRange, followers? b = some [range, continuation] ∧
      ∀ c : UInt8, 0x80 ≤ c.toNat → c.toNat ≤ 0xbf → (b.toNat = 0xe0 → 0xa0 ≤ c.toNat) →
        (b.toNat = 0xed → c.toNat ≤ 0x9f) → range.contains c = true := by
  unfold followers?
  simp only [UInt8.le_iff_toNat_le, UInt8.lt_iff_toNat_lt, ← UInt8.toNat_inj, UInt8.reduceToNat]
  rw [if_neg (by omega), if_neg (by omega), if_neg (by omega)]
  by_cases hfirst : b.toNat = 0xe0
  · rw [if_pos hfirst]
    refine ⟨_, rfl, ?_⟩
    intro c _ hc hnarrow _
    exact ByteRange.contains_iff.mpr ⟨hnarrow hfirst, hc⟩
  · rw [if_neg hfirst]
    by_cases hlast : b.toNat = 0xed
    · rw [if_pos hlast]
      refine ⟨_, rfl, ?_⟩
      intro c hc _ _ hnarrow
      exact ByteRange.contains_iff.mpr ⟨hc, hnarrow hlast⟩
    · rw [if_neg hlast, if_pos hhi]
      refine ⟨_, rfl, ?_⟩
      intro c hlo hhi _ _
      exact ByteRange.contains_iff.mpr ⟨hlo, hhi⟩

/-- A lead byte of four has three continuations behind it, the first of which may be narrowed. -/
theorem exists_followers?_four (hlo : 0xf0 ≤ b.toNat) (hhi : b.toNat ≤ 0xf4) :
    ∃ range : ByteRange, followers? b = some [range, continuation, continuation] ∧
      ∀ c : UInt8, 0x80 ≤ c.toNat → c.toNat ≤ 0xbf → (b.toNat = 0xf0 → 0x90 ≤ c.toNat) →
        (b.toNat = 0xf4 → c.toNat ≤ 0x8f) → range.contains c = true := by
  unfold followers?
  simp only [UInt8.le_iff_toNat_le, UInt8.lt_iff_toNat_lt, ← UInt8.toNat_inj, UInt8.reduceToNat]
  rw [if_neg (by omega), if_neg (by omega), if_neg (by omega), if_neg (by omega),
    if_neg (by omega), if_neg (by omega)]
  by_cases hfirst : b.toNat = 0xf0
  · rw [if_pos hfirst]
    refine ⟨_, rfl, ?_⟩
    intro c _ hc hnarrow _
    exact ByteRange.contains_iff.mpr ⟨hnarrow hfirst, hc⟩
  · rw [if_neg hfirst]
    by_cases hlast : b.toNat = 0xf4
    · rw [if_neg (by omega), if_pos hlast]
      refine ⟨_, rfl, ?_⟩
      intro c hc _ _ hnarrow
      exact ByteRange.contains_iff.mpr ⟨hc, hnarrow hlast⟩
    · rw [if_pos (by omega)]
      refine ⟨_, rfl, ?_⟩
      intro c hlo hhi _ _
      exact ByteRange.contains_iff.mpr ⟨hlo, hhi⟩

end Followers

/-! ## Steps of the decoder -/

section Steps

variable {valid bits length : Nat} {b : UInt8} {bytes : List UInt8} {range next : ByteRange}
  {ranges : List ByteRange}

/-- A lead byte opens a sequence. -/
theorem decodeFrom_lead (h : followers? b = some (range :: ranges)) :
    decodeFrom valid none (b :: bytes) =
      decodeFrom valid (some ⟨leadBits b (ranges.length + 1), 1, range :: ranges⟩) bytes := by
  rw [decodeFrom, h]
  rfl

/-- A byte in its range goes on with the sequence. -/
theorem decodeFrom_follower (h : range.contains b = true) :
    decodeFrom valid (some ⟨bits, length, range :: next :: ranges⟩) (b :: bytes) =
      decodeFrom valid (some ⟨bits * 64 + b.toNat % 64, length + 1, next :: ranges⟩) bytes := by
  rw [decodeFrom, if_pos h]

/-- The last byte of a sequence completes its character. -/
theorem decodeFrom_last (h : range.contains b = true) :
    decodeFrom valid (some ⟨bits, length, [range]⟩) (b :: bytes) =
      (Char.ofNat (bits * 64 + b.toNat % 64) :: ·) <$>
        decodeFrom (valid + length + 1) none bytes := by
  rw [decodeFrom, if_pos h]

end Steps

/-! ## Decoding what has been encoded -/

/-- The value of a byte that is written as a number. -/
theorem toNat_ofNat {n : Nat} (h : n < 256) : (UInt8.ofNat n).toNat = n := by
  rw [UInt8.toNat_ofNat']
  exact Nat.mod_eq_of_lt h

/-- A byte that holds six bits is a continuation. -/
theorem contains_continuation {n : Nat} (h : n < 64) :
    continuation.contains (UInt8.ofNat (n + 128)) = true := by
  rw [ByteRange.contains_iff, toNat_ofNat (by omega)]
  refine ⟨?_, ?_⟩
  · show 128 ≤ n + 128
    omega
  · show n + 128 ≤ 191
    omega

/-- The bytes of a character are read as this character. -/
theorem decodeFrom_encodeChar (valid : Nat) (c : Char) (rest : List UInt8) :
    decodeFrom valid none (String.utf8EncodeChar c ++ rest) =
      (c :: ·) <$> decodeFrom (valid + (String.utf8EncodeChar c).length) none rest := by
  have hvalid : c.toNat < 0xd800 ∨ 0xdfff < c.toNat ∧ c.toNat < 0x110000 := c.valid
  have hchar : Char.ofNat c.toNat = c := Char.ofNat_toNat c
  have hcode : c.val.toNat = c.toNat := rfl
  unfold String.utf8EncodeChar
  simp only [hcode]
  generalize c.toNat = n at hvalid hchar
  split_ifs with hone htwo hthree
  · have hbyte := toNat_ofNat (n := n) (by omega)
    rw [List.cons_append, decodeFrom, followers?_ascii (by omega)]
    simp only
    rw [hbyte, hchar]
    rfl
  · have hlead := toNat_ofNat (n := n / 64 % 32 + 192) (by omega)
    have hlast := toNat_ofNat (n := n % 64 + 128) (by omega)
    have hbits : leadBits (UInt8.ofNat (n / 64 % 32 + 192)) 1 * 64 +
        (UInt8.ofNat (n % 64 + 128)).toNat % 64 = n := by
      rw [hlast]
      show (UInt8.ofNat (n / 64 % 32 + 192)).toNat % 32 * 64 + _ = n
      rw [hlead]
      omega
    rw [List.cons_append, List.cons_append,
      decodeFrom_lead (followers?_two (by omega) (by omega)),
      decodeFrom_last (contains_continuation (by omega)), List.length_nil, hbits, hchar]
    rfl
  · have hlead := toNat_ofNat (n := n / 4096 % 16 + 224) (by omega)
    have hsecond := toNat_ofNat (n := n / 64 % 64 + 128) (by omega)
    have hlast := toNat_ofNat (n := n % 64 + 128) (by omega)
    obtain ⟨range, hrange, hcontains⟩ :=
      exists_followers?_three (b := UInt8.ofNat (n / 4096 % 16 + 224)) (by omega) (by omega)
    have hbits : (leadBits (UInt8.ofNat (n / 4096 % 16 + 224)) 2 * 64 +
        (UInt8.ofNat (n / 64 % 64 + 128)).toNat % 64) * 64 +
          (UInt8.ofNat (n % 64 + 128)).toNat % 64 = n := by
      rw [hsecond, hlast]
      show ((UInt8.ofNat (n / 4096 % 16 + 224)).toNat % 16 * 64 + _) * 64 + _ = n
      rw [hlead]
      omega
    rw [List.cons_append, List.cons_append, List.cons_append, decodeFrom_lead hrange,
      decodeFrom_follower (hcontains _ (by omega) (by omega) (by omega) (by omega)),
      decodeFrom_last (contains_continuation (by omega)), List.length_singleton, hbits, hchar]
    rfl
  · have hlead := toNat_ofNat (n := n / 262144 % 8 + 240) (by omega)
    have hsecond := toNat_ofNat (n := n / 4096 % 64 + 128) (by omega)
    have hthird := toNat_ofNat (n := n / 64 % 64 + 128) (by omega)
    have hlast := toNat_ofNat (n := n % 64 + 128) (by omega)
    obtain ⟨range, hrange, hcontains⟩ :=
      exists_followers?_four (b := UInt8.ofNat (n / 262144 % 8 + 240)) (by omega) (by omega)
    have hbits : ((leadBits (UInt8.ofNat (n / 262144 % 8 + 240)) 3 * 64 +
        (UInt8.ofNat (n / 4096 % 64 + 128)).toNat % 64) * 64 +
          (UInt8.ofNat (n / 64 % 64 + 128)).toNat % 64) * 64 +
            (UInt8.ofNat (n % 64 + 128)).toNat % 64 = n := by
      rw [hsecond, hthird, hlast]
      show (((UInt8.ofNat (n / 262144 % 8 + 240)).toNat % 8 * 64 + _) * 64 + _) * 64 + _ = n
      rw [hlead]
      omega
    rw [List.cons_append, List.cons_append, List.cons_append, List.cons_append,
      decodeFrom_lead hrange,
      decodeFrom_follower (hcontains _ (by omega) (by omega) (by omega) (by omega)),
      decodeFrom_follower (contains_continuation (by omega)),
      decodeFrom_last (contains_continuation (by omega)), List.length_cons, List.length_singleton,
      hbits, hchar]
    rfl

/-- The bytes of characters are read as these characters. -/
theorem decodeFrom_flatMap_encodeChar (valid : Nat) (chars : List Char) :
    decodeFrom valid none (chars.flatMap String.utf8EncodeChar) = .ok chars := by
  induction chars generalizing valid with
  | nil => rfl
  | cons c chars ih =>
    rw [List.flatMap_cons, decodeFrom_encodeChar, ih]
    rfl

/-- **A text is read back from its bytes.** -/
theorem decode_encode (text : String) : decode (encode text) = .ok text := by
  rw [decode, encode, decodeFrom_flatMap_encodeChar]
  exact congrArg Except.ok String.ofList_toList

/-- Texts with the same bytes are the same. -/
theorem encode_injective : Function.Injective encode := by
  intro text other h
  have hdecode := decode_encode text
  rw [h, decode_encode] at hdecode
  exact (Except.ok.inj hdecode).symm

/-! ## The bytes of a character -/

/-- An ASCII character is one byte. -/
theorem encodeChar_ascii {c : Char} (h : c.toNat < 128) :
    String.utf8EncodeChar c = [UInt8.ofNat c.toNat] := by
  have hcode : c.val.toNat = c.toNat := rfl
  unfold String.utf8EncodeChar
  simp only [hcode]
  rw [if_pos (by omega)]

/-- No byte of another character is ASCII. -/
theorem le_of_mem_encodeChar {c : Char} {b : UInt8} (h : 128 ≤ c.toNat)
    (hb : b ∈ String.utf8EncodeChar c) : 128 ≤ b.toNat := by
  have hcode : c.val.toNat = c.toNat := rfl
  have hhigh : ∀ n, 128 ≤ n → n < 256 → 128 ≤ (UInt8.ofNat n).toNat := by
    intro n hlo hhi
    rw [toNat_ofNat hhi]
    exact hlo
  unfold String.utf8EncodeChar at hb
  simp only [hcode] at hb
  rw [if_neg (by omega)] at hb
  split_ifs at hb
  all_goals
    simp only [List.mem_cons, List.not_mem_nil, or_false] at hb
    rcases hb with rfl | rfl | rfl | rfl
    all_goals exact hhigh _ (by omega) (by omega)

/-- The byte of an ASCII character occurs in this character only. -/
theorem eq_of_mem_encodeChar {c d : Char} (hd : d.toNat < 128)
    (h : UInt8.ofNat d.toNat ∈ String.utf8EncodeChar c) : c = d := by
  have hbyte := toNat_ofNat (n := d.toNat) (by omega)
  by_cases hc : c.toNat < 128
  · rw [encodeChar_ascii hc, List.mem_singleton, ← UInt8.toNat_inj, hbyte,
      toNat_ofNat (by omega)] at h
    exact Char.toNat_inj.mp h.symm
  · have hle := le_of_mem_encodeChar (by omega) h
    omega

/-- The bytes of two texts follow one another. -/
theorem encode_append (front rest : String) : encode (front ++ rest) = encode front ++ encode rest := by
  rw [encode, String.toList_append, List.flatMap_append]
  rfl

/-- Texts that are put together have their bytes put together. -/
theorem encode_join (texts : List String) :
    encode (String.join texts) = (texts.map encode).flatten := by
  induction texts with
  | nil => rfl
  | cons text texts ih => rw [String.join_cons, encode_append, ih, List.map_cons, List.flatten_cons]

end KnxExport.Utf8
