import Mathlib.Algebra.Field.Rat
import Mathlib.Data.List.TakeWhile
import Mathlib.Tactic.SplitIfs
import KnxExport.Listing.Object
import KnxExport.Proofs.Address
import KnxExport.Proofs.Text.Lines

/-!
# A lexer for JSON

`lex` reads a text by the lexical rules of JSON, all of them: six marks, strings with the nine
escapes, numbers with sign, fraction and exponent, three names, and four kinds of space. It is
strict: a raw control in a string is an error, and so are half of a pair of surrogates and a number
with a zero in front.

Main statements: `readString_escape`, a string that has been escaped character by character is read
back up to its closing quote, and `isScalar_jsonString` and `isScalar_decimal` about values as they
are written.
-/

namespace KnxExport.Json

open Text (contains_eq_false)

/-- A value. The members of an object are kept in their order, and may have the same name. -/
inductive Value where
  | null
  | bool (value : Bool)
  | number (value : ℚ)
  | string (value : String)
  | array (items : List Value)
  | object (members : List (String × Value))

/-- A token. -/
inductive Token where
  /-- A bracket, a colon or a comma. -/
  | mark (c : Char)
  /-- A value that is no array and no object. -/
  | scalar (value : Value)

/-! ## Strings -/

/-- The value of a hexadecimal digit. -/
def hexDigit? (c : Char) : Option Nat :=
  if c.isDigit then some (c.toNat - '0'.toNat)
  else if 'a' ≤ c ∧ c ≤ 'f' then some (c.toNat - 'a'.toNat + 10)
  else if 'A' ≤ c ∧ c ≤ 'F' then some (c.toNat - 'A'.toNat + 10)
  else none

/-- Reads four hexadecimal digits: their value and what follows them. -/
def readCode : List Char → Option (Nat × List Char)
  | a :: b :: c :: d :: rest =>
    match hexDigit? a, hexDigit? b, hexDigit? c, hexDigit? d with
    | some a, some b, some c, some d => some (((a * 16 + b) * 16 + c) * 16 + d, rest)
    | _, _, _, _ => none
  | _ => none

/-- Four digits are taken. -/
theorem length_of_readCode {text rest : List Char} {code : Nat}
    (h : readCode text = some (code, rest)) : text.length = rest.length + 4 := by
  unfold readCode at h
  split at h
  · split at h
    · cases h
      rfl
    · cases h
  · cases h

/-- Reads the digits of an escaped character: the character and what follows it. A character that
does not fit into four digits is written as two surrogates, the second with an escape of its own. -/
def readUnicode (text : List Char) : Option (Char × List Char) :=
  match readCode text with
  | none => none
  | some (code, rest) =>
    if code < 0xd800 ∨ 0xdfff < code then some (Char.ofNat code, rest)
    else
      match rest with
      | '\\' :: 'u' :: low =>
        match readCode low with
        | none => none
        | some (low, rest) =>
          if code < 0xdc00 ∧ 0xdc00 ≤ low ∧ low ≤ 0xdfff then
            some (Char.ofNat (0x10000 + (code - 0xd800) * 0x400 + (low - 0xdc00)), rest)
          else none
      | _ => none

/-- Some digits are taken. -/
theorem length_lt_of_readUnicode {text rest : List Char} {c : Char}
    (h : readUnicode text = some (c, rest)) : rest.length < text.length := by
  unfold readUnicode at h
  split at h
  · cases h
  · next code more hcode =>
    have hlength := length_of_readCode hcode
    split at h
    · cases h
      omega
    · split at h
      · next low =>
        split at h
        · cases h
        · next value last hlow =>
          have hlowLength := length_of_readCode hlow
          split at h
          · obtain ⟨-, rfl⟩ := Prod.mk.inj (Option.some.inj h)
            simp only [List.length_cons] at hlength
            omega
          · cases h
      · cases h

/-- Reads an escape after its backslash: its character and what follows it. -/
def readEscape : List Char → Option (Char × List Char)
  | [] => none
  | c :: rest =>
    if c = '"' ∨ c = '\\' ∨ c = '/' then some (c, rest)
    else if c = 'b' then some ('\x08', rest)
    else if c = 'f' then some ('\x0c', rest)
    else if c = 'n' then some ('\n', rest)
    else if c = 'r' then some ('\r', rest)
    else if c = 't' then some ('\t', rest)
    else if c = 'u' then readUnicode rest
    else none

/-- An escape takes at least one character. -/
theorem length_lt_of_readEscape {text rest : List Char} {c : Char}
    (h : readEscape text = some (c, rest)) : rest.length < text.length := by
  cases text with
  | nil => cases h
  | cons d more =>
    rw [readEscape] at h
    have hunicode : readUnicode more = some (c, rest) → rest.length < (d :: more).length := by
      intro hread
      have := length_lt_of_readUnicode hread
      rw [List.length_cons]
      omega
    split_ifs at h
    all_goals first | exact hunicode h | (cases h; simp)

/-- Reads a string after its opening quote: its value and what follows its closing quote. -/
def readString (text : List Char) : Option (List Char × List Char) :=
  match text with
  | [] => none
  | c :: rest =>
    if c = '"' then some ([], rest)
    else if c.toNat < 0x20 then none
    else if c = '\\' then
      match _ : readEscape rest with
      | none => none
      | some (d, rest) => (readString rest).map fun (value, rest) => (d :: value, rest)
    else (readString rest).map fun (value, rest) => (c :: value, rest)
termination_by text.length
decreasing_by
  · have := length_lt_of_readEscape ‹_›
    simp only [List.length_cons]
    omega
  · simp

/-- A string loses at least its closing quote. -/
theorem length_lt_of_readString {text value rest : List Char}
    (h : readString text = some (value, rest)) : rest.length < text.length := by
  fun_induction readString text generalizing value with
  | case1 => simp at h
  | case2 rest' => cases h; simp
  | case3 => simp at h
  | case4 => simp at h
  | case5 rest' d more hescape _ _ ih =>
    obtain ⟨⟨v, r⟩, hread, heq⟩ := Option.map_eq_some_iff.mp h
    cases heq
    have := ih hread
    have := length_lt_of_readEscape hescape
    simp only [List.length_cons]
    omega
  | case6 c rest' _ _ _ ih =>
    obtain ⟨⟨v, r⟩, hread, heq⟩ := Option.map_eq_some_iff.mp h
    cases heq
    have := ih hread
    simp only [List.length_cons]
    omega

section Strings

/-- The closing quote ends a string. -/
@[simp] theorem readString_quote (rest : List Char) :
    readString ('"' :: rest) = some ([], rest) := by
  rw [readString]
  simp

/-- A character that means nothing special in a string stands for itself. -/
theorem readString_cons {c : Char} (hquote : c ≠ '"') (hcontrol : 0x20 ≤ c.toNat)
    (hslash : c ≠ '\\') (rest : List Char) :
    readString (c :: rest) = (readString rest).map fun (value, rest) => (c :: value, rest) := by
  rw [readString, if_neg hquote, if_neg (by omega), if_neg hslash]

/-- An escape stands for its character. -/
theorem readString_escaped {text rest : List Char} {c : Char}
    (h : readEscape text = some (c, rest)) :
    readString ('\\' :: text) =
      (readString rest).map fun (value, rest) => (c :: value, rest) := by
  rw [readString, if_neg (by decide), if_neg (by decide), if_pos rfl]
  split
  · next hnone => rw [h] at hnone; cases hnone
  · next hsome => rw [h] at hsome; cases hsome; rfl

/-- A digit has the value that it was written for. -/
theorem hexDigit?_digitChar {n : Nat} (hn : n < 16) : hexDigit? (Nat.digitChar n) = some n := by
  revert n
  decide

/-- A control is read as it was written. -/
theorem readEscape_fourDigits {n : Nat} (hn : n < 0x20) (rest : List Char) :
    readEscape ('u' :: (Listing.fourDigits n ++ rest)) = some (Char.ofNat n, rest) := by
  have hdigit : ∀ m, hexDigit? (Nat.digitChar (m % 16)) = some (m % 16) := fun m =>
    hexDigit?_digitChar (Nat.mod_lt m (by decide))
  have hcode : readCode (Listing.fourDigits n ++ rest) = some (n, rest) := by
    simp only [Listing.fourDigits, List.cons_append, List.nil_append, readCode, hdigit]
    congr 2
    omega
  have hplain : n < 0xd800 ∨ 0xdfff < n := .inl (by omega)
  simp [readEscape, readUnicode, hcode, hplain]

/-- A string starts with the character whose escape it starts with. -/
theorem readString_escapeChar (c : Char) (rest : List Char) :
    readString (Listing.escapeChar c ++ rest) =
      (readString rest).map fun (value, rest) => (c :: value, rest) := by
  unfold Listing.escapeChar
  split_ifs with hquote hslash hback hfeed hline hreturn htab hcontrol
  · subst hquote
    exact readString_escaped (by simp [readEscape])
  · subst hslash
    exact readString_escaped (by simp [readEscape])
  · subst hback
    exact readString_escaped (by simp [readEscape])
  · subst hfeed
    exact readString_escaped (by simp [readEscape])
  · subst hline
    exact readString_escaped (by simp [readEscape])
  · subst hreturn
    exact readString_escaped (by simp [readEscape])
  · subst htab
    exact readString_escaped (by simp [readEscape])
  · have hread := readEscape_fourDigits hcontrol rest
    rw [Char.ofNat_toNat] at hread
    exact readString_escaped hread
  · exact readString_cons hquote (by omega) hslash rest

/-- **Escaping loses nothing.** A text that has been escaped character by character is read back up
to the quote that closes it, whatever follows. -/
theorem readString_escape (text rest : List Char) :
    readString (text.flatMap Listing.escapeChar ++ '"' :: rest) = some (text, rest) := by
  induction text with
  | nil => simp
  | cons c text ih =>
    rw [List.flatMap_cons, List.append_assoc, readString_escapeChar, ih]
    rfl

end Strings

/-! ## Numbers -/

/-- The number that digits denote, of which there has to be one at least. -/
def digits? (digits : List Char) : Option Nat :=
  if digits ≠ [] ∧ digits.all Char.isDigit then some (Nat.ofDigitChars 10 digits 0) else none

/-- Reads the digits after a point, if there is one: the digits and what follows them. -/
def readFraction : List Char → Option (List Char × List Char)
  | '.' :: rest =>
    let digits := rest.takeWhile Char.isDigit
    if digits = [] then none else some (digits, rest.dropWhile Char.isDigit)
  | rest => some ([], rest)

/-- Reads an exponent, if there is one, to the end of a number. -/
def readExponent : List Char → Option Int
  | [] => some 0
  | c :: rest =>
    if c = 'e' ∨ c = 'E' then
      match rest with
      | '-' :: digits => (digits? digits).map fun n => -(n : Int)
      | '+' :: digits => (digits? digits).map Int.ofNat
      | digits => (digits? digits).map Int.ofNat
    else none

/-- Reads a number without its sign. Its first digit is zero only if that is the last one before
the point. -/
def readUnsigned (text : List Char) : Option ℚ :=
  let whole := text.takeWhile Char.isDigit
  if whole = [] ∨ whole.head? = some '0' ∧ whole ≠ ['0'] then none
  else
    match readFraction (text.dropWhile Char.isDigit) with
    | none => none
    | some (fraction, rest) => (readExponent rest).map fun exponent =>
      (Nat.ofDigitChars 10 (whole ++ fraction) 0 : ℚ) *
        (10 : ℚ) ^ (exponent - (fraction.length : Int))

/-- Reads a number. -/
def readNumber : List Char → Option ℚ
  | '-' :: text => (readUnsigned text).map fun value => -value
  | text => readUnsigned text

/-- The digits of a number have no zero in front. -/
theorem toDigits_eq_zero_of_head? (n : Nat) (h : (Nat.toDigits 10 n).head? = some '0') :
    Nat.toDigits 10 n = ['0'] := by
  induction n using Nat.strong_induction_on with
  | _ n ih =>
    obtain hlt | hle := Nat.lt_or_ge n 10
    · rw [Nat.toDigits_of_lt_base hlt] at h ⊢
      rw [Option.some.inj h]
    · rw [Nat.toDigits_of_base_le (by decide) hle, List.head?_append,
        List.head?_eq_some_head Nat.toDigits_ne_nil, Option.some_or,
        ← List.head?_eq_some_head Nat.toDigits_ne_nil] at h
      have hfront := ih (n / 10) (by omega) h
      have hvalue := Nat.ofDigitChars_ten_toDigits (n := n / 10)
      rw [hfront] at hvalue
      have hzero : Nat.ofDigitChars 10 ['0'] 0 = 0 := rfl
      omega

/-- Digits without anything else are read as their number. -/
theorem readNumber_toDigits (n : Nat) : readNumber (Nat.toDigits 10 n) = some (n : ℚ) := by
  have hdigits : ∀ c ∈ Nat.toDigits 10 n, c.isDigit = true := fun c hc =>
    Nat.isDigit_of_mem_toDigits (by decide) (by decide) hc
  have hwhole : (Nat.toDigits 10 n).takeWhile Char.isDigit = Nat.toDigits 10 n :=
    List.takeWhile_eq_self_iff.mpr hdigits
  have hrest : (Nat.toDigits 10 n).dropWhile Char.isDigit = [] :=
    List.dropWhile_eq_nil_iff.mpr hdigits
  have hunsigned : readUnsigned (Nat.toDigits 10 n) = some (n : ℚ) := by
    simpa [readUnsigned, hwhole, hrest, readFraction, readExponent,
      Nat.ofDigitChars_ten_toDigits] using toDigits_eq_zero_of_head? n
  cases htext : Nat.toDigits 10 n with
  | nil => exact absurd htext Nat.toDigits_ne_nil
  | cons c rest =>
    have hc : c ≠ '-' := by
      rintro rfl
      rw [htext] at hdigits
      exact absurd (hdigits '-' List.mem_cons_self) (by decide)
    rw [← hunsigned, htext]
    unfold readNumber
    split
    · next hdash => exact absurd (List.cons.inj hdash).1 hc
    · rfl

/-! ## Tokens -/

/-- A character between tokens. -/
def isSpace (c : Char) : Bool :=
  [' ', '\t', '\n', '\r'].contains c

/-- The marks. -/
def marks : List Char :=
  ['\x7b', '\x7d', '[', ']', ':', ',']

/-- The character is a mark. -/
def isMark (c : Char) : Bool :=
  marks.contains c

/-- A character of a number. -/
def inNumber (c : Char) : Bool :=
  c.isDigit || ['-', '+', '.', 'e', 'E'].contains c

/-- The value of a name. -/
def readName (name : List Char) : Option Value :=
  if name = ['n', 'u', 'l', 'l'] then some .null
  else if name = ['t', 'r', 'u', 'e'] then some (.bool true)
  else if name = ['f', 'a', 'l', 's', 'e'] then some (.bool false)
  else none

/-- Reads a text token by token. -/
def lex (text : List Char) : Option (List Token) :=
  match text with
  | [] => some []
  | c :: rest =>
    if isSpace c then lex rest
    else if isMark c then (lex rest).map (.mark c :: ·)
    else if c = '"' then
      match _ : readString rest with
      | none => none
      | some (value, rest) => (lex rest).map (.scalar (.string (String.ofList value)) :: ·)
    else if inNumber c then
      match readNumber (c :: rest.takeWhile inNumber) with
      | none => none
      | some value => (lex (rest.dropWhile inNumber)).map (.scalar (.number value) :: ·)
    else
      match readName (c :: rest.takeWhile Char.isAlpha) with
      | none => none
      | some value => (lex (rest.dropWhile Char.isAlpha)).map (.scalar value :: ·)
termination_by text.length
decreasing_by
  · simp
  · simp
  · have := length_lt_of_readString ‹_›
    simp only [List.length_cons]
    omega
  · have := (List.dropWhile_sublist inNumber (l := rest)).length_le
    simp only [List.length_cons]
    omega
  · have := (List.dropWhile_sublist Char.isAlpha (l := rest)).length_le
    simp only [List.length_cons]
    omega

/-- Nothing has no tokens. -/
@[simp] theorem lex_nil : lex [] = some [] := by
  rw [lex]

/-- A mark is a token. -/
theorem lex_mark {c : Char} (h : isMark c = true) (rest : List Char) :
    lex (c :: rest) = (lex rest).map (.mark c :: ·) := by
  have hspace : isSpace c = false := contains_eq_false h (by decide)
  rw [lex, if_neg (by simp [hspace]), if_pos h]

/-- A text is one value that is no array and no object, whatever mark follows it. -/
def IsScalar (text : List Char) (value : Value) : Prop :=
  ∀ c rest, isMark c = true → lex (text ++ c :: rest) = (lex (c :: rest)).map (.scalar value :: ·)

/-- A text that has been written as a string is that string. -/
theorem isScalar_jsonString (text : String) :
    IsScalar (Listing.jsonString text).toList (.string text) := by
  intro c rest _
  have hread := readString_escape text.toList (c :: rest)
  rw [Listing.jsonString, String.toList_ofList, List.cons_append, List.append_assoc,
    List.singleton_append, lex, if_neg (by decide), if_neg (by decide), if_pos rfl]
  split
  · next hnone => rw [hread] at hnone; cases hnone
  · next hsome =>
    rw [hread] at hsome
    cases hsome
    rw [String.ofList_toList]

/-- A mark is none of the characters that no mark is one of. -/
theorem eq_false_of_isMark {p : Char → Bool} (hp : marks.any p = false) {c : Char}
    (hc : isMark c = true) : p c = false :=
  Bool.eq_false_iff.mpr (List.any_eq_false.mp hp c (List.contains_iff_mem.mp hc))

/-- A run of characters ends before a mark that is none of them. -/
theorem takeWhile_mark {p : Char → Bool} {run : List Char} {c : Char}
    (hrun : ∀ d ∈ run, p d = true) (hc : p c = false) (rest : List Char) :
    (run ++ c :: rest).takeWhile p = run ∧ (run ++ c :: rest).dropWhile p = c :: rest := by
  rw [List.takeWhile_append_of_pos hrun, List.dropWhile_append_of_pos hrun,
    List.takeWhile_cons_of_neg (by simp [hc]), List.dropWhile_cons_of_neg (by simp [hc]),
    List.append_nil]
  exact ⟨rfl, rfl⟩

/-- A number that has been written in decimal digits is that number. -/
theorem isScalar_decimal (n : UInt16) :
    IsScalar (Text.decimal n).toList (.number (n.toNat : ℚ)) := by
  intro c rest hc
  have hread : readNumber (Text.decimal n).toList = some (n.toNat : ℚ) := by
    rw [Text.decimal, String.toList_ofList]
    exact readNumber_toDigits n.toNat
  have hdigits := Text.isDigit_of_mem_decimal (n := n)
  cases htext : (Text.decimal n).toList with
  | nil =>
    rw [htext] at hread
    cases hread
  | cons d more =>
    rw [htext] at hread hdigits
    rw [List.forall_mem_cons] at hdigits
    obtain ⟨hd, hmore⟩ := hdigits
    have hspace : isSpace d = false := contains_eq_false hd (by decide)
    have hmark : isMark d = false := contains_eq_false hd (by decide)
    have hquote : d ≠ '"' := by rintro rfl; cases hd
    have hrun : ∀ e ∈ more, inNumber e = true := fun e he => by simp [inNumber, hmore e he]
    have hend : inNumber c = false := eq_false_of_isMark (by decide) hc
    obtain ⟨htake, hdrop⟩ := takeWhile_mark hrun hend rest
    rw [List.cons_append, lex, if_neg (by simp [hspace]), if_neg (by simp [hmark]),
      if_neg hquote, if_pos (by simp [inNumber, hd]), htake, hdrop, hread]

/-- The name of nothing is nothing. -/
theorem isScalar_null : IsScalar "null".toList .null := by
  intro c rest hc
  have hrun : ∀ d ∈ ['u', 'l', 'l'], d.isAlpha = true := List.all_eq_true.mp (by decide)
  have hend : c.isAlpha = false := eq_false_of_isMark (by decide) hc
  obtain ⟨htake, hdrop⟩ := takeWhile_mark hrun hend rest
  show lex ('n' :: (['u', 'l', 'l'] ++ c :: rest)) = _
  rw [lex, if_neg (by decide), if_neg (by decide), if_neg (by decide), if_neg (by decide), htake,
    hdrop]
  rfl

end KnxExport.Json
