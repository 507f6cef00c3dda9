import Mathlib.Data.List.Induction
import Mathlib.Tactic.Ring
import KnxExport.Text.Decimal

/-!
# Which digits are numbers of sixteen bits

A digit counts by its place, and a word is a text of digits whose value in this sense fits into
sixteen bits. `word?` reads the words and nothing else. Zeros in front of another digit are
superfluous: they do not change the value, and `decimal` writes none.

Main statements: `word?_eq_some_iff`, which texts are read and as which number;
`toList_decimal_of_denotes`, the text of a number that has been read.
-/

namespace KnxExport.Text

/-! ## Values by places -/

/-- The value of a digit. -/
def digitValue (c : Char) : Nat :=
  c.toNat - '0'.toNat

/-- The value of digits in base ten, each by its place. -/
def placeValue : List Char → Nat
  | [] => 0
  | c :: digits => digitValue c * 10 ^ digits.length + placeValue digits

/-- One more digit at the end moves the others by one place. -/
theorem placeValue_append_singleton (digits : List Char) (c : Char) :
    placeValue (digits ++ [c]) = 10 * placeValue digits + digitValue c := by
  induction digits with
  | nil => simp [placeValue]
  | cons d digits ih =>
    rw [List.cons_append, placeValue, placeValue, ih, List.length_append, List.length_singleton,
      Nat.pow_succ]
    ring

/-- Reading digits from left to right gives their value by places. -/
theorem ofDigitChars_eq_placeValue (digits : List Char) :
    Nat.ofDigitChars 10 digits 0 = placeValue digits := by
  induction digits with
  | nil => rfl
  | cons c digits ih =>
    rw [Nat.ofDigitChars_cons, Nat.ofDigitChars_eq_ofDigitChars_zero, ih, placeValue, digitValue]
    ring

/-- The ten digits follow one another. -/
theorem toNat_of_isDigit {c : Char} (h : c.isDigit = true) :
    c.toNat = 48 + digitValue c ∧ digitValue c < 10 := by
  have hrange : 48 ≤ c.toNat ∧ c.toNat ≤ 57 := by
    simpa [Char.isDigit, UInt32.le_iff_toNat_le] using h
  have hvalue : digitValue c = c.toNat - 48 := rfl
  omega

/-- A digit that is written for a value has this value. -/
theorem digitValue_digitChar {d : Nat} (h : d < 10) : digitValue (Nat.digitChar d) = d := by
  rw [digitValue, Nat.toNat_digitChar_of_lt_ten h]
  exact Nat.add_sub_cancel_left 48 d

/-! ## Words -/

/-- The text is a number of sixteen bits in decimal digits, with any number of leading zeros. -/
structure IsWord (digits : List Char) : Prop where
  ne_nil : digits ≠ []
  isDigit : ∀ c ∈ digits, c.isDigit = true
  placeValue_le : placeValue digits ≤ 65535

/-- The text is that number. -/
def Denotes (digits : List Char) (n : UInt16) : Prop :=
  IsWord digits ∧ placeValue digits = n.toNat

section Word

variable {digits : List Char} {n : UInt16}

/-- **Words are read as the numbers that they are, and nothing else is read.** -/
theorem word?_eq_some_iff : word? digits = some n ↔ Denotes digits n := by
  simp only [word?, ofDigitChars_eq_placeValue, Option.ite_none_right_eq_some, Denotes,
    Option.some.injEq, List.all_eq_true]
  constructor
  · rintro ⟨⟨hne, hdigits, hle⟩, rfl⟩
    refine ⟨⟨hne, hdigits, hle⟩, ?_⟩
    rw [UInt16.toNat_ofNat', Nat.mod_eq_of_lt (by omega)]
  · rintro ⟨⟨hne, hdigits, hle⟩, hvalue⟩
    refine ⟨⟨hne, hdigits, hle⟩, ?_⟩
    rw [hvalue, UInt16.ofNat_toNat]

/-- What is no word is not read. -/
theorem word?_eq_none_iff : word? digits = none ↔ ¬ IsWord digits := by
  simp only [word?, ofDigitChars_eq_placeValue, ite_eq_right_iff, reduceCtorEq, imp_false,
    List.all_eq_true]
  constructor
  · intro h hword
    exact h ⟨hword.ne_nil, hword.isDigit, hword.placeValue_le⟩
  · rintro h ⟨hne, hdigits, hle⟩
    exact h ⟨hne, hdigits, hle⟩

/-- A word is some number. -/
theorem IsWord.exists_denotes (h : IsWord digits) : ∃ n, Denotes digits n := by
  refine ⟨UInt16.ofNat (placeValue digits), h, ?_⟩
  have hle := h.placeValue_le
  rw [UInt16.toNat_ofNat', Nat.mod_eq_of_lt (by omega)]

/-- There is nothing but digits in a number. -/
theorem Denotes.not_mem (h : Denotes digits n) {c : Char} (hc : c.isDigit = false) :
    c ∉ digits := by
  intro hmem
  rw [h.1.isDigit c hmem] at hc
  cases hc

end Word

/-! ## Texts of numbers -/

/-- The text of a number is made of digits only. -/
theorem isDigit_of_mem_decimal {n : UInt16} : ∀ c ∈ (decimal n).toList, c.isDigit = true := by
  intro c hc
  rw [decimal, String.toList_ofList] at hc
  exact Nat.isDigit_of_mem_toDigits (by decide) (by decide) hc

/-- The text of a number is this number. -/
theorem denotes_decimal (n : UInt16) : Denotes (decimal n).toList n := by
  have hvalue : placeValue (decimal n).toList = n.toNat := by
    rw [← ofDigitChars_eq_placeValue, decimal, String.toList_ofList, Nat.ofDigitChars_ten_toDigits]
  have hle : n.toNat ≤ 65535 := Nat.le_of_lt_succ n.toNat_lt
  refine ⟨⟨?_, isDigit_of_mem_decimal, by omega⟩, hvalue⟩
  rw [decimal, String.toList_ofList]
  exact Nat.toDigits_ne_nil

/-- A number is read back from its text. -/
theorem word?_decimal (n : UInt16) : word? (decimal n).toList = some n :=
  word?_eq_some_iff.mpr (denotes_decimal n)

/-- Numbers with one text are one number. -/
theorem decimal_inj {n m : UInt16} (h : decimal n = decimal m) : n = m := by
  have hword := word?_decimal n
  rw [h, word?_decimal] at hword
  exact (Option.some.inj hword).symm

/-! ## Superfluous zeros -/

/-- The digits without the zeros that stand in front of another digit. -/
def stripZeros : List Char → List Char
  | '0' :: c :: digits => stripZeros (c :: digits)
  | digits => digits

/-- A digit is the text of its value. -/
theorem toDigits_digitValue {c : Char} (h : c.isDigit = true) :
    Nat.toDigits 10 (digitValue c) = [c] := by
  obtain ⟨hcode, hlt⟩ := toNat_of_isDigit h
  have hchar : Nat.digitChar (digitValue c) = c := by
    apply Char.toNat_inj.mp
    rw [Nat.toNat_digitChar_of_lt_ten hlt]
    omega
  rw [Nat.toDigits_of_lt_base hlt, hchar]

/-- Digits that do not begin with a zero, or one digit alone, are the text of their value. The
induction takes the last digit off, as writing a number does. -/
theorem toDigits_placeValue {c : Char} {digits : List Char}
    (h : ∀ d ∈ c :: digits, d.isDigit = true) (hzero : c ≠ '0' ∨ digits = []) :
    Nat.toDigits 10 (placeValue (c :: digits)) = c :: digits := by
  induction digits using List.reverseRecOn with
  | nil =>
    have hone : placeValue [c] = digitValue c := by simp [placeValue]
    rw [hone, toDigits_digitValue (h c List.mem_cons_self)]
  | append_singleton digits d ih =>
    have hne : c ≠ '0' := by
      rcases hzero with hne | hnil
      · exact hne
      · simp at hnil
    have hpos : 0 < placeValue (c :: digits) := by
      have hcode := (toNat_of_isDigit (h c List.mem_cons_self)).1
      have hzero : c.toNat ≠ 48 := fun heq => hne (Char.toNat_inj.mp heq)
      have hdigit : 0 < digitValue c := by omega
      exact Nat.add_pos_left (Nat.mul_pos hdigit (Nat.pow_pos (by decide))) _
    rw [← List.cons_append, List.forall_mem_append, List.forall_mem_singleton] at h
    obtain ⟨hfront, hd⟩ := h
    rw [← List.cons_append, placeValue_append_singleton,
      ← Nat.toDigits_append_toDigits (by decide) hpos (toNat_of_isDigit hd).2,
      ih hfront (.inl hne), toDigits_digitValue hd]

/-- The text of the value of digits is these digits without superfluous zeros. -/
theorem toDigits_placeValue_eq_stripZeros {digits : List Char} (hne : digits ≠ [])
    (h : ∀ c ∈ digits, c.isDigit = true) :
    Nat.toDigits 10 (placeValue digits) = stripZeros digits := by
  induction digits using stripZeros.induct with
  | case1 c digits ih =>
    have hvalue : placeValue ('0' :: c :: digits) = placeValue (c :: digits) := by
      rw [placeValue, show digitValue '0' = 0 from rfl, Nat.zero_mul, Nat.zero_add]
    rw [hvalue, stripZeros]
    exact ih (by simp) fun d hd => h d (List.mem_cons_of_mem _ hd)
  | case2 digits hother =>
    rcases digits with _ | ⟨c, digits⟩
    · exact absurd rfl hne
    · have hzero : c ≠ '0' ∨ digits = [] := by
        by_contra hboth
        rw [not_or, not_not] at hboth
        obtain ⟨rfl, hrest⟩ := hboth
        obtain ⟨d, rest, rfl⟩ := List.exists_cons_of_ne_nil hrest
        exact hother d rest rfl
      rw [toDigits_placeValue h hzero, stripZeros]
      exact hother

/-- The text of a number that has been read is what has been read, without superfluous zeros. -/
theorem toList_decimal_of_denotes {digits : List Char} {n : UInt16} (h : Denotes digits n) :
    (decimal n).toList = stripZeros digits := by
  rw [decimal, String.toList_ofList, ← h.2]
  exact toDigits_placeValue_eq_stripZeros h.1.ne_nil h.1.isDigit

end KnxExport.Text
