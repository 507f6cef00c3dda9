import Mathlib.Data.List.Forall2
import Mathlib.Data.List.Infix
import Mathlib.Order.Bounds.Defs
import KnxExport.Proofs.Text.WellFormed

/-!
# Where bytes stop being UTF-8

Bytes that are no text begin with a text, and something behind it is no character: either it is the
beginning of one that the bytes end within, or at some byte it stops being the beginning of any.
`Stops` says so without the decoder, and the fault that the decoder reports says where that is.

Main statement: `stopsBehind_of_decode`, the fault of bytes that are no text. It rests on
`exists_encodeChar_iff`, the bytes of a character as a lead byte and bytes in the ranges behind it,
and on `pending_of_decodeFrom`, what the decoder makes of a sequence that is open. What the fault
says of all beginnings of the bytes follows from `StopsBehind` alone: see
`StopsBehind.isGreatest_wellFormed`, `StopsBehind.length?_eq_none_iff` and
`StopsBehind.exists_isGreatest_opens`.
-/

namespace KnxExport.Utf8

/-! ## The bytes of a character -/

/-- Each byte lies in its range. -/
def Matches (ranges : List ByteRange) (bytes : List UInt8) : Prop :=
  List.Forall₂ (fun range b => ByteRange.contains range b = true) ranges bytes

section Characters

variable {a b : UInt8} {bytes rest : List UInt8} {range next : ByteRange}
  {ranges seen more : List ByteRange} {valid bits length : Nat} {chars : List Char}

/-- Every range behind a lead byte holds its first byte. -/
theorem contains_fst_of_followers? (h : followers? a = some ranges) :
    ∀ range ∈ ranges, ByteRange.contains range range.1 = true := by
  unfold followers? at h
  split_ifs at h
  all_goals
    obtain rfl := Option.some.inj h
    simp [ByteRange.contains, continuation]

/-- An open sequence that is read to its end has its bytes in their ranges, and is the first of the
characters that are read. -/
theorem matches_of_decodeFrom
    (h : decodeFrom valid (some ⟨bits, length, range :: ranges⟩) bytes = .ok chars) :
    ∃ front rest c more valid', bytes = front ++ rest ∧ Matches (range :: ranges) front ∧
      chars = c :: more ∧ decodeFrom valid' none rest = .ok more := by
  induction ranges generalizing range bits length bytes with
  | nil =>
    obtain ⟨b, rest, more, rfl, hb, rfl, hmore⟩ := exists_of_decodeFrom_last h
    exact ⟨[b], rest, _, more, _, rfl, .cons hb .nil, rfl, hmore⟩
  | cons next ranges ih =>
    obtain ⟨b, after, rfl, hb, hnext⟩ := exists_of_decodeFrom_follower h
    obtain ⟨front, rest, c, more, valid', rfl, hfront, rfl, hmore⟩ := ih hnext
    exact ⟨b :: front, rest, c, more, valid', rfl, .cons hb hfront, rfl, hmore⟩

/-- **The bytes of a character** are a lead byte and bytes in the ranges behind it. -/
theorem exists_encodeChar_iff :
    (∃ c, String.utf8EncodeChar c = a :: bytes) ↔
      ∃ ranges, followers? a = some ranges ∧ Matches ranges bytes := by
  constructor
  · rintro ⟨c, hc⟩
    have hread := decodeFrom_flatMap_encodeChar 0 [c]
    rw [List.flatMap_singleton, hc] at hread
    rcases hfollowers : followers? a with _ | _ | ⟨range, ranges⟩
    · rw [decodeFrom, hfollowers] at hread
      cases hread
    · rw [decodeFrom, hfollowers] at hread
      obtain ⟨more, hmore, hcons⟩ := map_eq_ok_iff.mp hread
      obtain rfl : more = [] := (List.cons.inj hcons).2
      obtain rfl : bytes = [] := eq_flatMap_of_decodeFrom hmore
      exact ⟨[], rfl, .nil⟩
    · rw [decodeFrom_lead hfollowers] at hread
      obtain ⟨front, rest, d, more, valid', rfl, hfront, hcons, hmore⟩ :=
        matches_of_decodeFrom hread
      obtain rfl : [] = more := (List.cons.inj hcons).2
      obtain rfl : rest = [] := eq_flatMap_of_decodeFrom hmore
      rw [List.append_nil]
      exact ⟨range :: ranges, rfl, hfront⟩
  · rintro ⟨ranges, hfollowers, hmatches⟩
    rcases followers?_cases hfollowers with ⟨ha, rfl⟩ | ⟨hlo, hhi, rfl⟩ |
      ⟨hlo, hhi, range, rfl, hrange⟩ | ⟨hlo, hhi, range, rfl, hrange⟩
    · cases hmatches
      exact ⟨_, encodeChar_one ha⟩
    · obtain _ | ⟨hb, ⟨⟩⟩ := hmatches
      exact ⟨_, encodeChar_two ⟨hlo, hhi⟩ (bounds_of_continuation hb)⟩
    · obtain _ | ⟨hb, _ | ⟨hc, ⟨⟩⟩⟩ := hmatches
      exact ⟨_, encodeChar_three ⟨hlo, hhi⟩ (hrange _ hb) (bounds_of_continuation hc)⟩
    · obtain _ | ⟨hb, _ | ⟨hc, _ | ⟨hd, ⟨⟩⟩⟩⟩ := hmatches
      exact ⟨_, encodeChar_four ⟨hlo, hhi⟩ (hrange _ hb) (bounds_of_continuation hc)
        (bounds_of_continuation hd)⟩

/-- Bytes that begin a character without being all of it. -/
def Opens (bytes : List UInt8) : Prop :=
  ∃ c, bytes <+: String.utf8EncodeChar c ∧ bytes ≠ String.utf8EncodeChar c

/-- No bytes at all begin every character. -/
theorem opens_nil : Opens [] := by
  refine ⟨'\x00', List.nil_prefix, ?_⟩
  rw [encodeChar_ascii (by decide)]
  exact (List.cons_ne_nil _ _).symm

/-- A lead byte and bytes in some of the ranges behind it, but not in all of them, begin a
character. -/
theorem opens_of_matches (hfollowers : followers? a = some (seen ++ next :: more))
    (h : Matches seen bytes) : Opens (a :: bytes) := by
  have hfirsts : ∀ ranges : List ByteRange,
      (∀ range ∈ ranges, ByteRange.contains range range.1 = true) →
        Matches ranges (ranges.map Prod.fst) := by
    intro ranges hranges
    exact List.forall₂_map_right_iff.mpr (List.forall₂_same.mpr hranges)
  have hrest := hfirsts (next :: more) fun range hrange =>
    contains_fst_of_followers? hfollowers range (List.mem_append_right _ hrange)
  obtain ⟨c, hc⟩ := exists_encodeChar_iff.mpr ⟨_, hfollowers, List.rel_append h hrest⟩
  refine ⟨c, ?_, ?_⟩
  · rw [hc]
    exact ⟨_, rfl⟩
  · rw [hc]
    intro hsame
    have hlength := congrArg List.length hsame
    simp at hlength

/-- No character begins with a byte that leads none. -/
theorem not_begins_of_no_followers (h : followers? a = none) (c : Char) :
    ¬ [a] <+: String.utf8EncodeChar c := by
  rintro ⟨rest, hc⟩
  obtain ⟨ranges, hranges, -⟩ := exists_encodeChar_iff.mp ⟨c, hc.symm⟩
  rw [h] at hranges
  cases hranges

/-- No character begins with a lead byte and bytes of which one is not in its range. -/
theorem not_begins_of_not_contains (hfollowers : followers? a = some (seen ++ next :: more))
    (h : Matches seen bytes) (hb : next.contains b = false) (c : Char) :
    ¬ a :: bytes ++ [b] <+: String.utf8EncodeChar c := by
  rintro ⟨rest, hc⟩
  obtain ⟨ranges, hranges, hmatches⟩ := exists_encodeChar_iff.mp ⟨c, hc.symm⟩
  obtain rfl := Option.some.inj (hfollowers.symm.trans hranges)
  have htail : Matches (next :: more) ([b] ++ rest) := by
    have hdrop := List.forall₂_drop seen.length hmatches
    rwa [List.drop_left, List.Forall₂.length_eq h, List.append_eq, List.append_eq,
      List.append_assoc, List.drop_left] at hdrop
  obtain _ | ⟨hcontains, -⟩ := htail
  rw [hb] at hcontains
  cases hcontains

end Characters

/-! ## Where the decoder stops -/

/-- How bytes that begin with no character stop being UTF-8, with the length that the fault
reports. -/
inductive Stops : List UInt8 → Option Nat → Prop
  /-- They begin a character and end within it. -/
  | early {bytes : List UInt8} (hne : bytes ≠ []) (h : Opens bytes) : Stops bytes none
  /-- Up to some byte they begin a character, and with this byte no longer. -/
  | bad {front rest : List UInt8} {b : UInt8} (h : Opens front)
      (hb : ∀ c, ¬ front ++ [b] <+: String.utf8EncodeChar c) :
      Stops (front ++ b :: rest) (some (max 1 front.length))

section Decoder

variable {a : UInt8} {bytes : List UInt8} {range : ByteRange} {ranges : List ByteRange}
  {valid bits length : Nat} {fault : Fault}

/-- An open sequence before a fault: it is read to its end and the fault comes later, the bytes end
within it, or it is left at a byte that is not in its range. -/
theorem pending_of_decodeFrom
    (h : decodeFrom valid (some ⟨bits, length, range :: ranges⟩) bytes = .error fault) :
    (∃ front rest, bytes = front ++ rest ∧ Matches (range :: ranges) front ∧
      decodeFrom (valid + length + front.length) none rest = .error fault) ∨
    (∃ seen next more, range :: ranges = seen ++ next :: more ∧ Matches seen bytes ∧
      fault = ⟨valid, none⟩) ∨
    ∃ seen next more front b rest, range :: ranges = seen ++ next :: more ∧
      bytes = front ++ b :: rest ∧ Matches seen front ∧ ByteRange.contains next b = false ∧
      fault = ⟨valid, some (length + front.length)⟩ := by
  induction ranges generalizing range bits length bytes with
  | nil =>
    rcases bytes with _ | ⟨b, rest⟩
    · cases h
      exact .inr (.inl ⟨[], range, [], rfl, .nil, rfl⟩)
    · by_cases hb : range.contains b = true
      · rw [decodeFrom_last hb, map_eq_error_iff] at h
        exact .inl ⟨[b], rest, rfl, .cons hb .nil, h⟩
      · rw [decodeFrom, if_neg hb] at h
        cases h
        exact .inr (.inr ⟨[], range, [], [], b, rest, rfl, rfl, .nil, by simpa using hb, rfl⟩)
  | cons next ranges ih =>
    rcases bytes with _ | ⟨b, rest⟩
    · cases h
      exact .inr (.inl ⟨[], range, next :: ranges, rfl, .nil, rfl⟩)
    · by_cases hb : range.contains b = true
      · rw [decodeFrom_follower hb] at h
        rcases ih h with ⟨front, rest, rfl, hfront, hrest⟩ |
          ⟨seen, stop, more, hranges, hseen, rfl⟩ |
          ⟨seen, stop, more, front, d, rest, hranges, rfl, hfront, hd, rfl⟩
        · refine .inl ⟨b :: front, rest, rfl, .cons hb hfront, ?_⟩
          rwa [List.length_cons, Nat.add_comm front.length, ← Nat.add_assoc]
        · exact .inr (.inl ⟨range :: seen, stop, more, by rw [hranges]; rfl, .cons hb hseen, rfl⟩)
        · refine .inr (.inr ⟨range :: seen, stop, more, b :: front, d, rest, by rw [hranges]; rfl,
            rfl, .cons hb hfront, hd, ?_⟩)
          rw [List.length_cons, Nat.add_comm front.length, ← Nat.add_assoc]
      · rw [decodeFrom, if_neg hb] at h
        cases h
        exact .inr (.inr ⟨[], range, next :: ranges, [], b, rest, rfl, rfl, .nil,
          by simpa using hb, rfl⟩)

/-- Behind `valid` well-formed bytes come those of some characters and then bytes that stop being
UTF-8, and the fault says where and how. -/
def StopsBehind (valid : Nat) (bytes : List UInt8) (fault : Fault) : Prop :=
  ∃ (chars : List Char) (tail : List UInt8),
    bytes = chars.flatMap String.utf8EncodeChar ++ tail ∧
      fault.validUpTo = valid + (chars.flatMap String.utf8EncodeChar).length ∧
      Stops tail fault.length?

/-- Bytes may stop being UTF-8 at their beginning. -/
theorem Stops.behind {length? : Option Nat} (h : Stops bytes length?) :
    StopsBehind valid bytes ⟨valid, length?⟩ :=
  ⟨[], bytes, rfl, rfl, h⟩

/-- A character in front of the bytes is one of those that come before the fault. -/
theorem StopsBehind.encodeChar_append {c : Char}
    (h : StopsBehind (valid + (String.utf8EncodeChar c).length) bytes fault) :
    StopsBehind valid (String.utf8EncodeChar c ++ bytes) fault := by
  obtain ⟨chars, tail, rfl, hvalid, hstops⟩ := h
  refine ⟨c :: chars, tail, ?_, ?_, hstops⟩
  · rw [List.flatMap_cons, List.append_assoc]
  · rw [hvalid, List.flatMap_cons, List.length_append, Nat.add_assoc]

/-- The fault of bytes that are no text says where and how they stop being UTF-8. -/
theorem stopsBehind_of_decodeFrom (h : decodeFrom valid none bytes = .error fault) :
    StopsBehind valid bytes fault := by
  induction hlength : bytes.length using Nat.strongRecOn generalizing valid bytes with
  | ind n ih =>
    rcases bytes with _ | ⟨a, bytes⟩
    · cases h
    -- A character at the beginning leaves less to read.
    have hchar : ∀ front rest, bytes = front ++ rest →
        (∃ c, String.utf8EncodeChar c = a :: front) →
        decodeFrom (valid + (front.length + 1)) none rest = .error fault →
        StopsBehind valid (a :: bytes) fault := by
      rintro front rest rfl ⟨c, hc⟩ hrest
      have hshorter : rest.length < n := by
        rw [← hlength, List.length_cons, List.length_append]
        omega
      rw [← List.length_cons (a := a), ← hc] at hrest
      have hstops := (ih rest.length hshorter hrest rfl).encodeChar_append
      rwa [hc] at hstops
    rcases hfollowers : followers? a with _ | _ | ⟨range, ranges⟩
    · rw [decodeFrom, hfollowers] at h
      cases h
      exact (Stops.bad opens_nil (not_begins_of_no_followers hfollowers)).behind
    · rw [decodeFrom, hfollowers] at h
      have hrest := map_eq_error_iff.mp h
      exact hchar [] bytes rfl (exists_encodeChar_iff.mpr ⟨_, hfollowers, .nil⟩) hrest
    · rw [decodeFrom_lead hfollowers] at h
      rcases pending_of_decodeFrom h with ⟨front, rest, rfl, hfront, hrest⟩ |
        ⟨seen, next, more, hranges, hseen, rfl⟩ |
        ⟨seen, next, more, front, b, rest, hranges, rfl, hfront, hb, rfl⟩
      · rw [Nat.add_assoc, Nat.add_comm 1] at hrest
        exact hchar front rest rfl (exists_encodeChar_iff.mpr ⟨_, hfollowers, hfront⟩) hrest
      · rw [hranges] at hfollowers
        exact (Stops.early (by simp) (opens_of_matches hfollowers hseen)).behind
      · rw [hranges] at hfollowers
        have hbad : Stops (a :: front ++ b :: rest) (some (max 1 (a :: front).length)) :=
          .bad (opens_of_matches hfollowers hfront)
            (not_begins_of_not_contains hfollowers hfront hb)
        rw [List.length_cons, Nat.max_eq_right (by omega), Nat.add_comm] at hbad
        exact hbad.behind

end Decoder

/-! ## What the place of a fault says -/

/-- The bytes are those of a text. -/
def WellFormed (bytes : List UInt8) : Prop :=
  ∃ text, bytes = encode text

/-- The lengths of the beginnings of the bytes that have the property. -/
def beginnings (P : List UInt8 → Prop) (bytes : List UInt8) : Set Nat :=
  { n | ∃ front, front <+: bytes ∧ P front ∧ front.length = n }

/-- Well-formed bytes are those that can be decoded. -/
theorem wellFormed_iff {bytes : List UInt8} :
    WellFormed bytes ↔ ∃ text, decode bytes = .ok text := by
  simp only [WellFormed, decode_eq_ok_iff]

/-- The bytes of characters are well-formed. -/
theorem wellFormed_flatMap (chars : List Char) :
    WellFormed (chars.flatMap String.utf8EncodeChar) :=
  ⟨String.ofList chars, by rw [encode, String.toList_ofList]⟩

/-- Well-formed bytes are those of characters. -/
theorem WellFormed.exists_chars {bytes : List UInt8} (h : WellFormed bytes) :
    ∃ chars : List Char, bytes = chars.flatMap String.utf8EncodeChar := by
  obtain ⟨text, rfl⟩ := h
  exact ⟨text.toList, rfl⟩

section Places

variable {bytes front rest more : List UInt8} {chars others : List Char} {length? : Option Nat}

/-- Characters whose bytes begin with those of others begin with these. -/
theorem exists_of_flatMap_append
    (h : chars.flatMap String.utf8EncodeChar ++ rest = others.flatMap String.utf8EncodeChar) :
    ∃ more : List Char, rest = more.flatMap String.utf8EncodeChar := by
  induction chars generalizing others with
  | nil => exact ⟨others, h⟩
  | cons c chars ih =>
    rw [List.flatMap_cons, List.append_assoc] at h
    rcases others with _ | ⟨d, others⟩
    · have hlength := congrArg List.length h
      have hpos := c.utf8Size_pos
      rw [List.length_append, String.length_utf8EncodeChar, List.flatMap_nil,
        List.length_nil] at hlength
      omega
    · obtain rfl := eq_of_encodeChar_append h
      rw [List.flatMap_cons, List.append_cancel_left_eq] at h
      exact ih h

/-- The beginning of a character has no character at its own beginning. -/
theorem Opens.not_begins (h : Opens front) (c : Char) : ¬ String.utf8EncodeChar c <+: front := by
  obtain ⟨d, hfront, hne⟩ := h
  intro hc
  obtain ⟨rest, hrest⟩ := hc.trans hfront
  rw [← List.flatMap_singleton String.utf8EncodeChar d] at hrest
  obtain rfl : c = d := eq_of_encodeChar_append hrest
  exact hne (hfront.eq_of_length_le hc.length_le)

/-- A beginning of bytes ends before a byte or has it in it. -/
theorem prefix_cases {b : UInt8} (h : more <+: front ++ b :: rest) :
    more <+: front ∨ front ++ [b] <+: more := by
  have hbyte : front ++ [b] <+: front ++ b :: rest := ⟨rest, by simp⟩
  rcases List.prefix_or_prefix_of_prefix hbyte h with hlonger | hshorter
  · exact .inr hlonger
  · rcases List.prefix_concat_iff.mp hshorter with rfl | hfront
    · exact .inr (List.prefix_refl _)
    · exact .inl hfront

/-- Bytes that stop being UTF-8 at their beginning begin with no character. -/
theorem Stops.not_begins (h : Stops bytes length?) (c : Char) :
    ¬ String.utf8EncodeChar c <+: bytes := by
  intro hc
  cases h with
  | early _ hopens => exact hopens.not_begins c hc
  | bad hopens hb =>
    rcases prefix_cases hc with hfront | hlonger
    · exact hopens.not_begins c hfront
    · exact hb c hlonger

/-- Bytes that stop being UTF-8 are some. -/
theorem Stops.ne_nil (h : Stops bytes length?) : bytes ≠ [] := by
  cases h with
  | early hne _ => exact hne
  | bad _ _ => simp

/-- Bytes that are left at a bad byte are left there whatever follows them. -/
theorem Stops.append {length : Nat} (h : Stops bytes (some length)) (more : List UInt8) :
    Stops (bytes ++ more) (some length) := by
  cases h with
  | @bad front rest b hopens hb =>
    rw [List.append_assoc, List.cons_append]
    exact .bad hopens hb

end Places

section Faults

variable {bytes : List UInt8} {fault : Fault} {length : Nat}

/-- The bytes before a fault are the longest beginning that is well-formed. -/
theorem StopsBehind.isGreatest_wellFormed (h : StopsBehind 0 bytes fault) :
    IsGreatest (beginnings WellFormed bytes) fault.validUpTo := by
  obtain ⟨chars, tail, rfl, hvalid, hstops⟩ := h
  rw [Nat.zero_add] at hvalid
  refine ⟨⟨_, List.prefix_append _ _, wellFormed_flatMap chars, hvalid.symm⟩, ?_⟩
  rintro n ⟨front, hfront, hwell, rfl⟩
  rw [hvalid]
  rcases List.prefix_or_prefix_of_prefix hfront (List.prefix_append _ tail) with hshort | hlong
  · exact hshort.length_le
  · -- What is more of the beginning would be characters at the place where the bytes stop.
    obtain ⟨beyond, rfl⟩ := hlong
    obtain ⟨others, hothers⟩ := hwell.exists_chars
    obtain ⟨more, rfl⟩ := exists_of_flatMap_append hothers
    rcases more with _ | ⟨c, more⟩
    · simp
    · rw [List.prefix_append_right_inj, List.flatMap_cons] at hfront
      exact absurd ((List.prefix_append _ _).trans hfront) (hstops.not_begins c)

/-- Bytes that stop being UTF-8 are not well-formed. -/
theorem StopsBehind.not_wellFormed (h : StopsBehind 0 bytes fault) : ¬ WellFormed bytes := by
  intro hwell
  have hle := h.isGreatest_wellFormed.2 ⟨bytes, List.prefix_refl _, hwell, rfl⟩
  obtain ⟨chars, tail, rfl, hvalid, hstops⟩ := h
  have hpos := List.length_pos_of_ne_nil hstops.ne_nil
  rw [List.length_append] at hle
  omega

/-- A fault has no length if and only if something makes a text of the bytes. -/
theorem StopsBehind.length?_eq_none_iff (h : StopsBehind 0 bytes fault) :
    fault.length? = none ↔ ∃ more, WellFormed (bytes ++ more) := by
  obtain ⟨chars, tail, rfl, hvalid, hstops⟩ := h
  rcases hlength : fault.length? with _ | length
  · rw [hlength] at hstops
    obtain ⟨-, c, ⟨rest, hc⟩, -⟩ := hstops
    refine ⟨fun _ => ⟨rest, ?_⟩, fun _ => rfl⟩
    have hwell := wellFormed_flatMap (chars ++ [c])
    rwa [List.flatMap_append, List.flatMap_singleton, ← hc, ← List.append_assoc] at hwell
  · rw [hlength] at hstops
    constructor
    · intro hnone
      cases hnone
    · rintro ⟨more, hwell⟩
      have hstill : Stops (tail ++ more) fault.length? := by
        rw [hlength]
        exact hstops.append more
      have hlonger : StopsBehind 0 (chars.flatMap String.utf8EncodeChar ++ tail ++ more) fault :=
        ⟨chars, tail ++ more, List.append_assoc _ _ _, hvalid, hstill⟩
      exact absurd hwell hlonger.not_wellFormed

/-- The length of a fault is that of the longest beginning of a character at its place, but at
least one. -/
theorem StopsBehind.exists_isGreatest_opens (h : StopsBehind 0 bytes fault)
    (hlength : fault.length? = some length) :
    ∃ n, IsGreatest (beginnings Opens (bytes.drop fault.validUpTo)) n ∧ length = max 1 n := by
  obtain ⟨chars, tail, rfl, hvalid, hstops⟩ := h
  rw [Nat.zero_add] at hvalid
  rw [hvalid, List.drop_left]
  rw [hlength] at hstops
  cases hstops with
  | @bad front rest b hopens hb =>
    refine ⟨front.length, ⟨⟨front, List.prefix_append _ _, hopens, rfl⟩, ?_⟩, rfl⟩
    rintro n ⟨other, hother, ⟨c, hbegins, -⟩, rfl⟩
    rcases prefix_cases hother with hfront | hlonger
    · exact hfront.length_le
    · exact absurd (hlonger.trans hbegins) (hb c)

/-- Bytes that are no text stop being UTF-8 where their fault says. -/
theorem stopsBehind_of_decode (h : decode bytes = .error fault) : StopsBehind 0 bytes fault :=
  stopsBehind_of_decodeFrom (map_eq_error_iff.mp h)

end Faults

end KnxExport.Utf8
