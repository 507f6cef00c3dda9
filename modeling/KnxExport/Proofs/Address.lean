import Mathlib.Data.List.Basic
import KnxExport.Address
import KnxExport.Proofs.Except
import KnxExport.Proofs.Text.Decimal
import KnxExport.Proofs.Text.Lines

/-!
# Which texts are addresses

What a text that is read as an address looks like: three segments of digits, so that no row of a
main or middle group, which has a dash in its address, could be taken for one. An address is read
back from its own text (`parse_text`), and the text of an address that has been read is what has
been read without superfluous zeros (`text_of_parse_ok`).

Main statement: `parse_by_grammar`, which texts are read, as which address, and how any other text
is rejected.
-/

namespace KnxExport

namespace Address

/-- A segment that can be read is the number of its digits. -/
theorem parseSegment_eq_ok {segment : Segment} {digits : List Char} {n : UInt16} :
    parseSegment segment digits = .ok n ↔ Text.word? digits = some n := by
  unfold parseSegment
  cases Text.word? digits <;> simp

/-- A text that is an address has three segments, each the number of its level. -/
theorem splitOn_of_parse_ok {text : String} {a : Address} (h : parse text = .ok a) :
    ∃ main middle sub, text.toList.splitOn '/' = [main, middle, sub] ∧
      Text.word? main = some a.main ∧ Text.word? middle = some a.middle ∧
      Text.word? sub = some a.sub := by
  unfold parse at h
  split at h
  · next main middle sub hsplit =>
    obtain ⟨m, hmain, hrest⟩ := bind_eq_ok_iff.mp h
    obtain ⟨n, hmiddle, hlast⟩ := bind_eq_ok_iff.mp hrest
    obtain ⟨k, hsub, hdone⟩ := bind_eq_ok_iff.mp hlast
    cases hdone
    exact ⟨main, middle, sub, hsplit, parseSegment_eq_ok.mp hmain,
      parseSegment_eq_ok.mp hmiddle, parseSegment_eq_ok.mp hsub⟩
  · cases h

/-- The row of a main or middle group is one with a dash in its address. -/
theorem isParent_iff {cell : String} : isParent cell = true ↔ '-' ∈ cell.toList :=
  List.contains_iff_mem

/-- No text that is an address has a dash in it. -/
theorem not_mem_of_parse_ok {text : String} {a : Address} (h : parse text = .ok a) :
    '-' ∉ text.toList := by
  obtain ⟨main, middle, sub, hsplit, hmain, hmiddle, hsub⟩ := splitOn_of_parse_ok h
  have hjoin : ['/'].intercalate (text.toList.splitOn '/') = text.toList :=
    List.intercalate_splitOn '/'
  have hdigit : ∀ {digits n}, Text.word? digits = some n → '-' ∉ digits := by
    intro digits n hword
    exact (Text.word?_eq_some_iff.mp hword).not_mem rfl
  rw [← hjoin, hsplit]
  simp [List.intercalate, hdigit hmain, hdigit hmiddle, hdigit hsub]

/-! ## The grammar of addresses -/

/-- The text is three segments with slashes between them. -/
structure Segments (text : String) (main middle sub : List Char) : Prop where
  toList : text.toList = main ++ '/' :: (middle ++ '/' :: sub)
  main : '/' ∉ main
  middle : '/' ∉ middle
  sub : '/' ∉ sub

/-- The text is the address: three numbers of sixteen bits with slashes between them. -/
def Reads (text : String) (a : Address) : Prop :=
  ∃ main middle sub, text.toList = main ++ '/' :: (middle ++ '/' :: sub) ∧
    Text.Denotes main a.main ∧ Text.Denotes middle a.middle ∧ Text.Denotes sub a.sub

/-- What is wrong with a text that is no address: the number of its segments, or else the first of
its three segments that is no number. -/
inductive Rejected (text : String) : Fault → Prop where
  | segmentCount (h : text.toList.count '/' ≠ 2) :
      Rejected text (.segmentCount text (text.toList.count '/' + 1))
  | main {main middle sub : List Char} (h : Segments text main middle sub)
      (hmain : ¬ Text.IsWord main) :
      Rejected text (.invalidSegment .main (String.ofList main))
  | middle {main middle sub : List Char} (h : Segments text main middle sub)
      (hmain : Text.IsWord main) (hmiddle : ¬ Text.IsWord middle) :
      Rejected text (.invalidSegment .middle (String.ofList middle))
  | sub {main middle sub : List Char} (h : Segments text main middle sub)
      (hmain : Text.IsWord main) (hmiddle : Text.IsWord middle) (hsub : ¬ Text.IsWord sub) :
      Rejected text (.invalidSegment .sub (String.ofList sub))

/-- The text with the superfluous zeros of each segment left out. -/
def withoutZeros (text : String) : String :=
  String.ofList (['/'].intercalate ((text.toList.splitOn '/').map Text.stripZeros))

section Grammar

variable {text : String} {main middle sub : List Char} {a : Address} {fault : Fault}

/-- The segments of a text are what stands between its slashes. -/
theorem Segments.splitOn (h : Segments text main middle sub) :
    text.toList.splitOn '/' = [main, middle, sub] := by
  rw [h.toList, List.splitOn_append_cons_self_of_not_mem h.main,
    List.splitOn_append_cons_self_of_not_mem h.middle, List.splitOn_eq_singleton h.sub]

/-- A text with two slashes has three segments. -/
theorem exists_segments (h : text.toList.count '/' = 2) :
    ∃ main middle sub, Segments text main middle sub := by
  have hlength := Text.length_splitOn '/' text.toList
  rw [h, List.length_eq_three] at hlength
  obtain ⟨main, middle, sub, hsplit⟩ := hlength
  have hjoin : ['/'].intercalate (text.toList.splitOn '/') = text.toList :=
    List.intercalate_splitOn '/'
  have hslash : ∀ segment ∈ text.toList.splitOn '/', '/' ∉ segment := by
    intro segment hsegment hmem
    exact (Text.mem_and_ne_of_mem_splitOn hsegment '/' hmem).2 rfl
  rw [hsplit] at hjoin hslash
  refine ⟨main, middle, sub, ?_, hslash _ (by simp), hslash _ (by simp), hslash _ (by simp)⟩
  rw [← hjoin]
  simp [List.intercalate]

/-- Three segments are read from left to right. -/
theorem parse_of_segments (h : Segments text main middle sub) :
    parse text = do
      let main ← parseSegment .main main
      let middle ← parseSegment .middle middle
      let sub ← parseSegment .sub sub
      return ⟨main, middle, sub⟩ := by
  unfold parse
  rw [h.splitOn]

/-- A text with another number of segments is rejected as a whole. -/
theorem parse_of_count_ne (h : text.toList.count '/' ≠ 2) :
    parse text = .error (.segmentCount text (text.toList.count '/' + 1)) := by
  have hlength := Text.length_splitOn '/' text.toList
  unfold parse
  split
  · next main middle sub hsplit =>
    rw [hsplit] at hlength
    simp only [List.length_cons, List.length_nil] at hlength
    omega
  · rw [hlength]

/-- A number is read. -/
theorem parseSegment_of_denotes {segment : Segment} {digits : List Char} {n : UInt16}
    (h : Text.Denotes digits n) : parseSegment segment digits = .ok n :=
  parseSegment_eq_ok.mpr (Text.word?_eq_some_iff.mpr h)

/-- What is no number is rejected. -/
theorem parseSegment_of_not_isWord {segment : Segment} {digits : List Char}
    (h : ¬ Text.IsWord digits) :
    parseSegment segment digits = .error (.invalidSegment segment (String.ofList digits)) := by
  unfold parseSegment
  rw [Text.word?_eq_none_iff.mpr h]

/-- An address has three segments. -/
theorem exists_segments_of_reads (h : Reads text a) :
    ∃ main middle sub, Segments text main middle sub ∧ Text.Denotes main a.main ∧
      Text.Denotes middle a.middle ∧ Text.Denotes sub a.sub := by
  obtain ⟨main, middle, sub, htext, hmain, hmiddle, hsub⟩ := h
  refine ⟨main, middle, sub, ⟨htext, ?_, ?_, ?_⟩, hmain, hmiddle, hsub⟩
  · exact hmain.not_mem rfl
  · exact hmiddle.not_mem rfl
  · exact hsub.not_mem rfl

/-- The texts that are read are those that are addresses. -/
theorem parse_eq_ok_iff : parse text = .ok a ↔ Reads text a := by
  constructor
  · intro h
    obtain ⟨main, middle, sub, hsplit, hmain, hmiddle, hsub⟩ := splitOn_of_parse_ok h
    have hjoin : ['/'].intercalate (text.toList.splitOn '/') = text.toList :=
      List.intercalate_splitOn '/'
    refine ⟨main, middle, sub, ?_, Text.word?_eq_some_iff.mp hmain,
      Text.word?_eq_some_iff.mp hmiddle, Text.word?_eq_some_iff.mp hsub⟩
    rw [← hjoin, hsplit]
    simp [List.intercalate]
  · intro h
    obtain ⟨main, middle, sub, hsegments, hmain, hmiddle, hsub⟩ := exists_segments_of_reads h
    rw [parse_of_segments hsegments, parseSegment_of_denotes hmain,
      parseSegment_of_denotes hmiddle, parseSegment_of_denotes hsub]
    rfl

/-- A text is rejected for what is wrong with it first. -/
theorem parse_of_rejected (h : Rejected text fault) : parse text = .error fault := by
  cases h with
  | segmentCount hcount => exact parse_of_count_ne hcount
  | main hsegments hmain =>
    rw [parse_of_segments hsegments, parseSegment_of_not_isWord hmain]
    rfl
  | middle hsegments hmain hmiddle =>
    obtain ⟨m, hm⟩ := hmain.exists_denotes
    rw [parse_of_segments hsegments, parseSegment_of_denotes hm,
      parseSegment_of_not_isWord hmiddle]
    rfl
  | sub hsegments hmain hmiddle hsub =>
    obtain ⟨m, hm⟩ := hmain.exists_denotes
    obtain ⟨n, hn⟩ := hmiddle.exists_denotes
    rw [parse_of_segments hsegments, parseSegment_of_denotes hm, parseSegment_of_denotes hn,
      parseSegment_of_not_isWord hsub]
    rfl

/-- A text is an address or there is something wrong with it. -/
theorem reads_or_rejected (text : String) : (∃ a, Reads text a) ∨ ∃ fault, Rejected text fault := by
  by_cases hcount : text.toList.count '/' = 2
  · obtain ⟨main, middle, sub, hsegments⟩ := exists_segments hcount
    by_cases hmain : Text.IsWord main
    · by_cases hmiddle : Text.IsWord middle
      · by_cases hsub : Text.IsWord sub
        · obtain ⟨m, hm⟩ := hmain.exists_denotes
          obtain ⟨n, hn⟩ := hmiddle.exists_denotes
          obtain ⟨k, hk⟩ := hsub.exists_denotes
          exact .inl ⟨⟨m, n, k⟩, main, middle, sub, hsegments.toList, hm, hn, hk⟩
        · exact .inr ⟨_, .sub hsegments hmain hmiddle hsub⟩
      · exact .inr ⟨_, .middle hsegments hmain hmiddle⟩
    · exact .inr ⟨_, .main hsegments hmain⟩
  · exact .inr ⟨_, .segmentCount hcount⟩

/-- The faults that are reported are what is wrong with a text. -/
theorem parse_eq_error_iff : parse text = .error fault ↔ Rejected text fault := by
  constructor
  · intro h
    rcases reads_or_rejected text with ⟨a, ha⟩ | ⟨other, hother⟩
    · rw [parse_eq_ok_iff.mpr ha] at h
      cases h
    · rw [parse_of_rejected hother] at h
      cases h
      exact hother
  · exact parse_of_rejected

/-- The text of an address that has been read is what has been read, without superfluous zeros. -/
theorem text_of_parse_ok (h : parse text = .ok a) : a.text = withoutZeros text := by
  obtain ⟨main, middle, sub, hsegments, hmain, hmiddle, hsub⟩ :=
    exists_segments_of_reads (parse_eq_ok_iff.mp h)
  apply String.toList_injective
  rw [withoutZeros, hsegments.splitOn, Address.text, String.toList_ofList]
  simp [List.intercalate, Text.toList_decimal_of_denotes hmain,
    Text.toList_decimal_of_denotes hmiddle, Text.toList_decimal_of_denotes hsub]

end Grammar

/-- **An address is read back from its text.** -/
theorem parse_text (a : Address) : parse a.text = .ok a := by
  apply parse_eq_ok_iff.mpr
  refine ⟨(Text.decimal a.main).toList, (Text.decimal a.middle).toList,
    (Text.decimal a.sub).toList, ?_, Text.denotes_decimal _, Text.denotes_decimal _,
    Text.denotes_decimal _⟩
  simp [text]

/-- Addresses with one text are one address. -/
theorem text_inj {a b : Address} (h : a.text = b.text) : a = b := by
  have hparse := parse_text a
  rw [h, parse_text] at hparse
  exact (Except.ok.inj hparse).symm

/-- **A text is read as an address if and only if it is one, and is rejected for its first fault
otherwise.** An address is three numbers of sixteen bits, with any number of leading zeros and with
slashes between them. A text with another number of segments is rejected as a whole, any other text
for the first of its segments that is no number. Every address is read back from its text, and the
text of an address that has been read is what has been read without superfluous zeros. -/
theorem parse_by_grammar (text : String) :
    (∀ a, parse text = .ok a ↔ Reads text a) ∧
    (∀ fault, parse text = .error fault ↔ Rejected text fault) ∧
    (∀ a, parse text = .ok a → a.text = withoutZeros text) ∧
    (∀ a : Address, parse a.text = .ok a) :=
  ⟨fun _ => parse_eq_ok_iff, fun _ => parse_eq_error_iff, fun _ => text_of_parse_ok, parse_text⟩

/-- Zeros in front do not make a number too large, nor are they all superfluous. -/
example : parse "000065535/00/7" = .ok ⟨65535, 0, 7⟩ ∧ withoutZeros "000065535/00/7" = "65535/0/7" ∧
    parse "65536/x/7" = .error (.invalidSegment .main "65536") := by
  decide

end Address

end KnxExport
