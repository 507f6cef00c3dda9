import Mathlib.Data.List.Basic
import KnxExport.DatapointType
import KnxExport.Proofs.Text.Decimal

/-!
# Which texts name a datapoint type

A text names a type by what stands between its first dash and the next one or the end: if that is a
number of sixteen bits, the type is known by this number, and nothing that follows it matters. Every
other text is unclear, and no number is made up for it.

Main statement: `parse_by_parts`. It rests on `parse_of_parts`, a text is read by its parts, and on
`exists_parts`, a text with a dash has them.
-/

namespace KnxExport.DatapointType

/-- The text is a family without dashes, a dash and a number part without dashes, and the rest of it
is empty or begins with the next dash. -/
structure Parts (text : String) (family number rest : List Char) : Prop where
  toList : text.toList = family ++ '-' :: (number ++ rest)
  family : '-' ∉ family
  number : '-' ∉ number
  rest : rest = [] ∨ rest.head? = some '-'

/-- The text names the type with this number: its number part is the number. -/
def Names (text : String) (n : UInt16) : Prop :=
  ∃ family number rest, Parts text family number rest ∧ Text.Denotes number n

/-- Why a text names no type. -/
inductive Unclear (text : String) : Prop where
  /-- There is no dash in it. -/
  | noDash (h : '-' ∉ text.toList)
  /-- Its number part is empty. -/
  | noNumber {family rest : List Char} (h : Parts text family [] rest)
  /-- Its number part has another character than an ASCII digit: a sign, a blank, a letter, a digit
  of another script. -/
  | notDigit {family number rest : List Char} (h : Parts text family number rest) {c : Char}
      (hmem : c ∈ number) (hdigit : c.isDigit = false)
  /-- Its number part has digits only, and their value does not fit into sixteen bits. -/
  | tooLarge {family number rest : List Char} (h : Parts text family number rest)
      (hdigits : ∀ c ∈ number, c.isDigit = true) (hlarge : 65535 < Text.placeValue number)

section Parts

variable {text : String} {family number rest : List Char} {n : UInt16}

/-- The first two pieces between dashes are the family and the number part. -/
theorem Parts.exists_splitOn (h : Parts text family number rest) :
    ∃ others, text.toList.splitOn '-' = family :: number :: others := by
  rw [h.toList, List.splitOn_append_cons_self_of_not_mem h.family]
  rcases h.rest with rfl | hdash
  · refine ⟨[], ?_⟩
    rw [List.append_nil, List.splitOn_eq_singleton h.number]
  · obtain ⟨more, rfl⟩ := List.head?_eq_some_iff.mp hdash
    exact ⟨more.splitOn '-', by rw [List.splitOn_append_cons_self_of_not_mem h.number]⟩

/-- A text is read by its number part. -/
theorem parse_of_parts (h : Parts text family number rest) :
    parse text = (Text.word? number).elim .unknown .known := by
  obtain ⟨others, hsplit⟩ := h.exists_splitOn
  unfold parse
  rw [hsplit]
  dsimp only
  rcases Text.word? number with _ | n
  · rfl
  · rfl

/-- A text without dashes is not read. -/
theorem parse_of_not_mem (h : '-' ∉ text.toList) : parse text = .unknown := by
  unfold parse
  rw [List.splitOn_eq_singleton h]

/-- A text with a dash has parts. -/
theorem exists_parts (h : '-' ∈ text.toList) :
    ∃ family number rest, Parts text family number rest := by
  obtain ⟨family, after, htext, hfamily⟩ := List.eq_append_cons_of_mem h
  by_cases hnext : '-' ∈ after
  · obtain ⟨number, more, rfl, hnumber⟩ := List.eq_append_cons_of_mem hnext
    exact ⟨family, number, '-' :: more, htext, hfamily, hnumber, .inr rfl⟩
  · refine ⟨family, after, [], ?_, hfamily, hnext, .inl rfl⟩
    rw [htext, List.append_nil]

/-- The types that are known are those that the text names. -/
theorem parse_eq_known_iff : parse text = .known n ↔ Names text n := by
  constructor
  · intro h
    by_cases hdash : '-' ∈ text.toList
    · obtain ⟨family, number, rest, hparts⟩ := exists_parts hdash
      rw [parse_of_parts hparts] at h
      rcases hword : Text.word? number with _ | m
      · rw [hword] at h
        cases h
      · rw [hword] at h
        cases h
        exact ⟨family, number, rest, hparts, Text.word?_eq_some_iff.mp hword⟩
    · rw [parse_of_not_mem hdash] at h
      cases h
  · rintro ⟨family, number, rest, hparts, hnumber⟩
    rw [parse_of_parts hparts, Text.word?_eq_some_iff.mpr hnumber]
    rfl

/-- A type is unknown where the text names none. -/
theorem parse_eq_unknown_iff : parse text = .unknown ↔ ∀ n, ¬ Names text n := by
  rcases hparse : parse text with n | _
  · have hnames := parse_eq_known_iff.mp hparse
    simp only [reduceCtorEq, false_iff, not_forall, not_not]
    exact ⟨n, hnames⟩
  · simp only [true_iff]
    intro n hnames
    rw [parse_eq_known_iff.mpr hnames] at hparse
    cases hparse

/-- A text with a number part that is no word is not read. -/
theorem parse_of_not_isWord (h : Parts text family number rest) (hword : ¬ Text.IsWord number) :
    parse text = .unknown := by
  rw [parse_of_parts h, Text.word?_eq_none_iff.mpr hword]
  rfl

/-- What is wrong with a number part that is no word. -/
theorem Unclear.of_not_isWord (h : Parts text family number rest) (hword : ¬ Text.IsWord number) :
    Unclear text := by
  by_cases hnil : number = []
  · subst hnil
    exact .noNumber h
  · by_cases hdigits : ∀ c ∈ number, c.isDigit = true
    · apply Unclear.tooLarge h hdigits
      by_contra hle
      exact hword ⟨hnil, hdigits, Nat.le_of_not_lt hle⟩
    · push Not at hdigits
      obtain ⟨c, hmem, hdigit⟩ := hdigits
      exact .notDigit h hmem (Bool.eq_false_iff.mpr hdigit)

/-- A type is unknown where there is something wrong with the text. -/
theorem parse_eq_unknown_iff_unclear : parse text = .unknown ↔ Unclear text := by
  constructor
  · intro h
    by_cases hdash : '-' ∈ text.toList
    · obtain ⟨family, number, rest, hparts⟩ := exists_parts hdash
      apply Unclear.of_not_isWord hparts
      intro hword
      obtain ⟨n, hn⟩ := hword.exists_denotes
      rw [parse_of_parts hparts, Text.word?_eq_some_iff.mpr hn] at h
      cases h
    · exact .noDash hdash
  · intro h
    cases h with
    | noDash hdash => exact parse_of_not_mem hdash
    | noNumber hparts =>
      apply parse_of_not_isWord hparts
      intro hword
      exact hword.ne_nil rfl
    | notDigit hparts hmem hdigit =>
      apply parse_of_not_isWord hparts
      intro hword
      rw [hword.isDigit _ hmem] at hdigit
      cases hdigit
    | tooLarge hparts _ hlarge =>
      apply parse_of_not_isWord hparts
      intro hword
      exact Nat.not_le_of_lt hlarge hword.placeValue_le

/-- What is put behind one more dash belongs to the rest. -/
theorem Parts.append (h : Parts text family number rest) (more : String) :
    Parts (text ++ "-" ++ more) family number (rest ++ '-' :: more.toList) where
  toList := by
    rw [String.toList_append, String.toList_append, h.toList]
    simp
  family := h.family
  number := h.number
  rest := by
    rcases h.rest with rfl | hdash
    · exact .inr rfl
    · obtain ⟨later, rfl⟩ := List.head?_eq_some_iff.mp hdash
      exact .inr rfl

/-- Nothing behind the second dash changes what is read. -/
theorem parse_append (h : '-' ∈ text.toList) (more : String) :
    parse (text ++ "-" ++ more) = parse text := by
  obtain ⟨family, number, rest, hparts⟩ := exists_parts h
  rw [parse_of_parts hparts, parse_of_parts (hparts.append more)]

end Parts

/-- **A type is known if and only if the text names it, and by no other number.** It is named by
the digits between the first dash and the next one or the end, any number of them, if their value
fits into sixteen bits. In every other text there is no dash, or nothing between these two places,
or a character that is no ASCII digit, or the value is too large; its type is then unknown. Whatever
follows the second dash does not change the result. -/
theorem parse_by_parts (text : String) :
    (∀ n, parse text = .known n ↔ Names text n) ∧
    (parse text = .unknown ↔ ∀ n, ¬ Names text n) ∧
    (parse text = .unknown ↔ Unclear text) ∧
    (∀ more, '-' ∈ text.toList → parse (text ++ "-" ++ more) = parse text) :=
  ⟨fun _ => parse_eq_known_iff, parse_eq_unknown_iff, parse_eq_unknown_iff_unclear,
    fun more h => parse_append h more⟩

/-- Zeros in front do not make a number too large, 65536 does not become zero, and neither a sign
nor what stands behind the next dash counts. -/
example : parse "DPST-0000065535-x" = .known 65535 ∧ parse "DPT-65536" = .unknown ∧
    parse "DPT-+5" = .unknown ∧ parse "-7" = .known 7 ∧ parse "DPT--7" = .unknown := by
  decide

end KnxExport.DatapointType
