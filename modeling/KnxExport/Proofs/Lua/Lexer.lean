import Mathlib.Tactic.SplitIfs
import KnxExport.Lua.Literal
import KnxExport.Proofs.Text.Lines

/-!
# A lexer for Lua

What a Lua document says is the sequence of its tokens. `lex` reads a text by Lua's lexical rules:
names, marks, strings in double quotes, and comments from two dashes to the end of the line. A line
ends before a line feed or a carriage return. A string that meets the end of its line is an error,
and so is an escape other than a quote, a backslash, `n`, `r`, `t` or one to three decimal digits.

The lexer is strict. Long brackets, numbers, strings in single quotes and marks that may be part of
a longer one are refused, not skipped, and so are decimal escapes of bytes that are no character on
their own. A text that it accepts therefore has these tokens and no others.

Main statement: `readString_escape`, a string that has been escaped character by character is read
back up to its closing quote, whatever follows it.
-/

namespace KnxExport.Lua

open Text (contains_eq_false)

/-- A token of Lua. -/
inductive Token where
  /-- A name or a keyword. -/
  | word (name : String)
  /-- A bracket, a comma or another mark. -/
  | mark (c : Char)
  /-- A string, by its value. -/
  | text (value : String)
  deriving DecidableEq, Repr

/-- A character that ends a line. -/
def isLineEnd (c : Char) : Bool :=
  c == '\n' || c == '\r'

/-- A character between tokens. -/
def isSpace (c : Char) : Bool :=
  [' ', '\t', '\x0b', '\x0c', '\n', '\r'].contains c

/-- A character that a word starts with. -/
def startsWord (c : Char) : Bool :=
  c.isAlpha || c == '_'

/-- A character that a word goes on with. -/
def inWord (c : Char) : Bool :=
  c.isAlphanum || c == '_'

/-- A mark that is a token on its own and never the start of a longer one. -/
def isMark (c : Char) : Bool :=
  ['+', '*', '%', '^', '#', '&', '|', '(', ')', '\x7b', '\x7d', ']', ';', ','].contains c

/-- The text after the dashes of a comment opens a long bracket. -/
def opensLong : List Char → Bool
  | '[' :: rest => (rest.dropWhile (· == '=')).head? == some '['
  | _ => false

/-- Reads an escape of up to three decimal digits: its character and what follows it. -/
def readDecimal (text : List Char) : Option (Char × List Char) :=
  let digits := (text.take 3).takeWhile Char.isDigit
  let value := Nat.ofDigitChars 10 digits 0
  if digits ≠ [] ∧ value < 128 then some (Char.ofNat value, text.drop digits.length) else none

/-- A decimal escape takes at least one digit. -/
theorem length_lt_of_readDecimal {text rest : List Char} {c : Char}
    (h : readDecimal text = some (c, rest)) : rest.length < text.length := by
  simp only [readDecimal, Option.ite_none_right_eq_some, Option.some.injEq, Prod.mk.injEq] at h
  obtain ⟨⟨hdigits, -⟩, -, rfl⟩ := h
  have hpos := List.length_pos_iff.mpr hdigits
  have hle := (List.takeWhile_sublist Char.isDigit (l := text.take 3)).length_le
  rw [List.length_take] at hle
  rw [List.length_drop]
  omega

/-- Reads an escape after its backslash: its character and what follows it. -/
def readEscape : List Char → Option (Char × List Char)
  | [] => none
  | c :: rest =>
    if c = '"' ∨ c = '\\' then some (c, rest)
    else if c = 'n' then some ('\n', rest)
    else if c = 'r' then some ('\r', rest)
    else if c = 't' then some ('\t', rest)
    else readDecimal (c :: rest)

/-- An escape takes at least one character. -/
theorem length_lt_of_readEscape {text rest : List Char} {c : Char}
    (h : readEscape text = some (c, rest)) : rest.length < text.length := by
  cases text with
  | nil => simp [readEscape] at h
  | cons d more =>
    rw [readEscape] at h
    split_ifs at h
    · cases h; simp
    · cases h; simp
    · cases h; simp
    · cases h; simp
    · exact length_lt_of_readDecimal h

/-- Reads a string after its opening quote: its value and what follows its closing quote. -/
def readString (text : List Char) : Option (List Char × List Char) :=
  match text with
  | [] => none
  | c :: rest =>
    if c = '"' then some ([], rest)
    else if isLineEnd c then none
    else if c = '\\' then
      match _ : readEscape rest with
      | none => none
      | some (d, rest) => (readString rest).map fun (value, rest) => (d :: value, rest)
    else (readString rest).map fun (value, rest) => (c :: value, rest)
termination_by text.length
decreasing_by
  · have := length_lt_of_readEscape ‹_›
    simp only [List.length_cons]
    omega
  · simp

/-- A string loses at least its closing quote. -/
theorem length_lt_of_readString {text value rest : List Char}
    (h : readString text = some (value, rest)) : rest.length < text.length := by
  fun_induction readString text generalizing value with
  | case1 => simp at h
  | case2 rest' => cases h; simp
  | case3 => simp at h
  | case4 => simp at h
  | case5 rest' d more hescape _ _ ih =>
    obtain ⟨⟨v, r⟩, hread, heq⟩ := Option.map_eq_some_iff.mp h
    cases heq
    have := ih hread
    have := length_lt_of_readEscape hescape
    simp only [List.length_cons]
    omega
  | case6 c rest' _ _ _ ih =>
    obtain ⟨⟨v, r⟩, hread, heq⟩ := Option.map_eq_some_iff.mp h
    cases heq
    have := ih hread
    simp only [List.length_cons]
    omega

/-- The closing quote ends a string. -/
@[simp] theorem readString_quote (rest : List Char) :
    readString ('"' :: rest) = some ([], rest) := by
  rw [readString]
  simp

/-- A character that means nothing special in a string stands for itself. -/
theorem readString_cons {c : Char} (hquote : c ≠ '"') (hend : isLineEnd c = false)
    (hslash : c ≠ '\\') (rest : List Char) :
    readString (c :: rest) = (readString rest).map fun (value, rest) => (c :: value, rest) := by
  rw [readString]
  simp [hquote, hend, hslash]

/-- An escape stands for its character. -/
theorem readString_escaped {text rest : List Char} {c : Char}
    (h : readEscape text = some (c, rest)) :
    readString ('\\' :: text) =
      (readString rest).map fun (value, rest) => (c :: value, rest) := by
  rw [readString, if_neg (by decide), if_neg (by decide), if_pos rfl]
  split
  · next hnone => rw [h] at hnone; cases hnone
  · next hsome => rw [h] at hsome; cases hsome; rfl

/-- Three decimal digits are read as the ASCII character that they were written for, also before
another digit. -/
theorem readEscape_threeDigits {n : Nat} (hn : n < 128) (rest : List Char) :
    readEscape (threeDigits n ++ rest) = some (Char.ofNat n, rest) := by
  have hdigit : ∀ m, (Nat.digitChar (m % 10)).isDigit = true := by
    intro m
    rw [Nat.isDigit_digitChar]
    exact decide_eq_true (Nat.mod_lt _ (by decide))
  have htake : ((threeDigits n ++ rest).take 3).takeWhile Char.isDigit = threeDigits n := by
    simp [threeDigits, hdigit]
  have hvalue : Nat.ofDigitChars 10 (threeDigits n) 0 = n := by
    simp only [threeDigits]
    rw [Nat.ofDigitChars_cons_digitChar_of_lt_ten (Nat.mod_lt _ (by decide)),
      Nat.ofDigitChars_cons_digitChar_of_lt_ten (Nat.mod_lt _ (by decide)),
      Nat.ofDigitChars_cons_digitChar_of_lt_ten (Nat.mod_lt _ (by decide)), Nat.ofDigitChars_nil]
    omega
  have hdecimal : readDecimal (threeDigits n ++ rest) = some (Char.ofNat n, rest) := by
    rw [readDecimal]
    simp only [htake, hvalue, hn, and_true]
    simp [threeDigits]
  have hletter : ∀ c, c.isDigit = false → Nat.digitChar (n / 100 % 10) ≠ c := by
    intro c hc heq
    rw [← heq, hdigit] at hc
    cases hc
  rw [threeDigits, List.cons_append, readEscape]
  rw [if_neg (by simp [hletter]), if_neg (hletter _ rfl), if_neg (hletter _ rfl),
    if_neg (hletter _ rfl)]
  exact hdecimal

/-- A string starts with the character whose escape it starts with. -/
theorem readString_escapeChar (c : Char) (rest : List Char) :
    readString (escapeChar c ++ rest) =
      (readString rest).map fun (value, rest) => (c :: value, rest) := by
  unfold escapeChar
  split_ifs with hquote hslash hfeed hreturn htab hcontrol
  · subst hquote
    exact readString_escaped (by simp [readEscape])
  · subst hslash
    exact readString_escaped (by simp [readEscape])
  · subst hfeed
    exact readString_escaped (by simp [readEscape])
  · subst hreturn
    exact readString_escaped (by simp [readEscape])
  · subst htab
    exact readString_escaped (by simp [readEscape])
  · have hread := readEscape_threeDigits (n := c.toNat) (by omega) rest
    rw [Char.ofNat_toNat] at hread
    exact readString_escaped hread
  · exact readString_cons hquote (by simp [isLineEnd, hfeed, hreturn]) hslash rest

/-- **Escaping loses nothing.** A text that has been escaped character by character is read back up
to the quote that closes it, whatever follows. -/
theorem readString_escape (text rest : List Char) :
    readString (text.flatMap escapeChar ++ '"' :: rest) = some (text, rest) := by
  induction text with
  | nil => simp
  | cons c text ih =>
    rw [List.flatMap_cons, List.append_assoc, readString_escapeChar, ih]
    rfl

/-- Reads a text token by token. -/
def lex (text : List Char) : Option (List Token) :=
  match text with
  | [] => some []
  | c :: rest =>
    if isSpace c then lex rest
    else if c = '"' then
      match _ : readString rest with
      | none => none
      | some (value, rest) => (lex rest).map (.text (String.ofList value) :: ·)
    else if c = '-' then
      if rest.head? ≠ some '-' then (lex rest).map (.mark '-' :: ·)
      else if opensLong rest.tail then none
      else lex (rest.tail.dropWhile fun c => !isLineEnd c)
    else if isMark c then (lex rest).map (.mark c :: ·)
    else if startsWord c then
      (lex (rest.dropWhile inWord)).map (.word (String.ofList (c :: rest.takeWhile inWord)) :: ·)
    else none
termination_by text.length
decreasing_by
  · simp
  · have := length_lt_of_readString ‹_›
    simp only [List.length_cons]
    omega
  · simp
  · have := (List.dropWhile_sublist (fun c => !isLineEnd c) (l := rest.tail)).length_le
    rw [List.length_tail] at this
    simp only [List.length_cons]
    omega
  · simp
  · have := (List.dropWhile_sublist inWord (l := rest)).length_le
    simp only [List.length_cons]
    omega

/-- Nothing has no tokens. -/
@[simp] theorem lex_nil : lex [] = some [] := by
  rw [lex]

/-- A space is no token. -/
theorem lex_space {c : Char} (h : isSpace c = true) (rest : List Char) :
    lex (c :: rest) = lex rest := by
  rw [lex, if_pos h]

/-- A mark is a token. -/
theorem lex_mark {c : Char} (h : isMark c = true) (rest : List Char) :
    lex (c :: rest) = (lex rest).map (.mark c :: ·) := by
  have hspace : isSpace c = false := contains_eq_false h (by decide)
  have hquote : c ≠ '"' := by rintro rfl; cases h
  have hdash : c ≠ '-' := by rintro rfl; cases h
  rw [lex, if_neg (by simp [hspace]), if_neg hquote, if_neg hdash, if_pos h]

/-- A text that is one word. -/
def isWord (word : String) : Bool :=
  match word.toList with
  | [] => false
  | c :: rest => startsWord c && rest.all inWord

/-- A word is a token, unless it goes on. -/
theorem lex_word {word : String} (h : isWord word = true) {rest : List Char}
    (hrest : ∀ c ∈ rest.head?, inWord c = false) :
    lex (word.toList ++ rest) = (lex rest).map (.word word :: ·) := by
  obtain ⟨c, more, hchars⟩ : ∃ c more, word.toList = c :: more := by
    cases hword : word.toList with
    | nil => simp [isWord, hword] at h
    | cons c more => exact ⟨c, more, rfl⟩
  simp only [isWord, hchars, Bool.and_eq_true, List.all_eq_true] at h
  obtain ⟨hstart, hmore⟩ := h
  have hspace : isSpace c = false := contains_eq_false hstart (by decide)
  have hmark : isMark c = false := contains_eq_false hstart (by decide)
  have hquote : c ≠ '"' := by rintro rfl; cases hstart
  have hdash : c ≠ '-' := by rintro rfl; cases hstart
  have hstop : rest.takeWhile inWord = [] ∧ rest.dropWhile inWord = rest := by
    cases rest with
    | nil => exact ⟨rfl, rfl⟩
    | cons d rest =>
      have hd : inWord d = false := hrest d rfl
      simp [hd]
  have htake : (more ++ rest).takeWhile inWord = more := by
    rw [List.takeWhile_append_of_pos hmore, hstop.1, List.append_nil]
  have hdrop : (more ++ rest).dropWhile inWord = rest := by
    rw [List.dropWhile_append_of_pos hmore, hstop.2]
  rw [hchars, List.cons_append, lex, if_neg (by simp [hspace]), if_neg hquote, if_neg hdash,
    if_neg (by simp [hmark]), if_pos hstart, htake, hdrop, ← hchars, String.ofList_toList]

/-- A text written as a literal is one token, with the text as its value. -/
theorem lex_literal (value : String) (rest : List Char) :
    lex ((literal value).toList ++ rest) = (lex rest).map (.text value :: ·) := by
  have hread := readString_escape value.toList rest
  rw [literal, String.toList_ofList, List.cons_append, List.append_assoc, List.cons_append,
    List.nil_append, lex, if_neg (by decide), if_pos rfl]
  split
  · next hnone => rw [hread] at hnone; cases hnone
  · next hsome =>
    rw [hread] at hsome
    cases hsome
    rw [String.ofList_toList]

/-- A comment that does not open a long bracket goes up to the end of its line. -/
theorem lex_comment {line : List Char} (hline : line.any isLineEnd = false)
    (hbracket : line.head? ≠ some '[') (rest : List Char) :
    lex ('-' :: '-' :: (line ++ '\n' :: rest)) = lex rest := by
  have hlong : opensLong (line ++ '\n' :: rest) = false := by
    cases line with
    | nil => rfl
    | cons c line =>
      have hc : c ≠ '[' := by simpa using hbracket
      simp [opensLong, hc]
  have hdrop : (line ++ '\n' :: rest).dropWhile (fun c => !isLineEnd c) = '\n' :: rest := by
    rw [List.dropWhile_append_of_pos (by simpa using hline)]
    rfl
  rw [lex, if_neg (by decide), if_neg (by decide), if_pos rfl, if_neg (by simp), List.tail_cons,
    if_neg (by simp [hlong]), hdrop]
  exact lex_space rfl rest

/-- The tokens of a document, if it has any meaning. -/
def tokens (text : String) : Option (List Token) :=
  lex text.toList

end KnxExport.Lua
