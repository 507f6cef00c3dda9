import Mathlib.Tactic.SplitIfs
import KnxExport.Proofs.Text.Decimal
import KnxExport.Text.Quoted

/-!
# Quoted text can be read back

A quoted text is read from its opening quote to its closing one, whatever follows, and gives the
text again. So texts are told apart by their quoted forms also in front of different words. And
whatever the text is, its quoted form holds no control, not even one beyond ASCII, so that it stays
on its line.

Main statements: `readQuoted_quoted` with `quoted_append_inj`, and `IsPlain.quoted`.
-/

namespace KnxExport.Text

/-! ## Reading quoted text -/

/-- The digits in which code points are written. -/
def codeDigits : List Char := "0123456789abcdef".toList

/-- Where a reader of quoted text stands. -/
inductive QuotePlace where
  /-- In the text. -/
  | inside
  /-- Behind a backslash. -/
  | escape
  /-- Behind the letter of a code point. -/
  | letter
  /-- In the digits of a code point, with their value so far. -/
  | code (value : Nat)

/-- The letters that stand for characters behind a backslash, with these characters. -/
def letters : List (Char × Char) :=
  [('"', '"'), ('\\', '\\'), ('0', '\x00'), ('t', '\t'), ('n', '\n'), ('r', '\r')]

/-- The character for which a letter stands behind a backslash. -/
def ofLetter? (letter : Char) : Option Char :=
  letters.lookup letter

/-- Reads quoted text up to its closing quote: the text, and what follows the quote. -/
def readQuotedFrom : QuotePlace → List Char → Option (List Char × List Char)
  | _, [] => none
  | .inside, c :: rest =>
    if c = '"' then some ([], rest)
    else if c = '\\' then readQuotedFrom .escape rest
    else (readQuotedFrom .inside rest).map fun (text, rest) => (c :: text, rest)
  | .escape, c :: rest =>
    if c = 'u' then readQuotedFrom .letter rest
    else
      match ofLetter? c with
      | none => none
      | some d => (readQuotedFrom .inside rest).map fun (text, rest) => (d :: text, rest)
  | .letter, c :: rest => if c = '\x7b' then readQuotedFrom (.code 0) rest else none
  | .code value, c :: rest =>
    if c = '\x7d' then
      (readQuotedFrom .inside rest).map fun (text, rest) => (Char.ofNat value :: text, rest)
    else
      match codeDigits.idxOf? c with
      | none => none
      | some digit => readQuotedFrom (.code (16 * value + digit)) rest

/-- Reads quoted text: the text, and what follows its closing quote. -/
def readQuoted : List Char → Option (List Char × List Char)
  | '"' :: rest => readQuotedFrom .inside rest
  | _ => none

/-! ## Code points -/

/-- A digit counts as much as the number that it was written for, and ends no code point. -/
theorem readQuotedFrom_digit {digit : Nat} (h : digit < 16) (value : Nat) (rest : List Char) :
    readQuotedFrom (.code value) (Nat.digitChar digit :: rest) =
      readQuotedFrom (.code (16 * value + digit)) rest := by
  have hdigit : ∀ n < 16, Nat.digitChar n ≠ '\x7d' ∧
      codeDigits.idxOf? (Nat.digitChar n) = some n := by decide
  obtain ⟨hbrace, hindex⟩ := hdigit digit h
  rw [readQuotedFrom, if_neg hbrace, hindex]

/-- The digits of a number are read as this number. -/
theorem readQuotedFrom_toDigits (n : Nat) (rest : List Char) :
    readQuotedFrom (.code 0) (Nat.toDigits 16 n ++ rest) = readQuotedFrom (.code n) rest := by
  induction n using Nat.strongRecOn generalizing rest with
  | _ n ih =>
    obtain hlt | hle := Nat.lt_or_ge n 16
    · rw [Nat.toDigits_of_lt_base hlt, List.singleton_append, readQuotedFrom_digit hlt,
        Nat.mul_zero, Nat.zero_add]
    · -- The last digit counts once, those before it sixteen times what they do by themselves.
      rw [Nat.toDigits_of_base_le (by decide) hle, List.append_assoc, List.singleton_append,
        ih (n / 16) (by omega), readQuotedFrom_digit (Nat.mod_lt n (by decide)),
        Nat.div_add_mod]

/-- Code points are written in hexadecimal digits. -/
theorem exists_of_mem_toDigits {n : Nat} {c : Char} (h : c ∈ Nat.toDigits 16 n) :
    ∃ digit < 16, c = Nat.digitChar digit := by
  induction n using Nat.strongRecOn with
  | _ n ih =>
    obtain hlt | hle := Nat.lt_or_ge n 16
    · rw [Nat.toDigits_of_lt_base hlt, List.mem_singleton] at h
      exact ⟨n, hlt, h⟩
    · rw [Nat.toDigits_of_base_le (by decide) hle, List.mem_append, List.mem_singleton] at h
      obtain hfront | hlast := h
      · exact ih (n / 16) (by omega) hfront
      · exact ⟨n % 16, Nat.mod_lt n (by decide), hlast⟩

/-! ## How a character is quoted -/

/-- A control in the sense of Unicode, in ASCII or beyond it. -/
def IsRawControl (c : Char) : Prop :=
  c.toNat < 0x20 ∨ 0x7f ≤ c.toNat ∧ c.toNat ≤ 0x9f

instance : DecidablePred IsRawControl := fun c =>
  inferInstanceAs (Decidable (c.toNat < 0x20 ∨ 0x7f ≤ c.toNat ∧ c.toNat ≤ 0x9f))

/-- No control is printed as it is. -/
theorem isUnprintable_of_isRawControl {c : Char} (h : IsRawControl c) : isUnprintable c = true := by
  have hranges : (0x7f, 0xa0) ∈ unprintableRanges := List.mem_cons_self
  rw [isUnprintable, Bool.or_eq_true, decide_eq_true_iff]
  obtain hlow | ⟨hfirst, hlast⟩ := h
  · exact .inl hlow
  · right
    apply List.any_eq_true.mpr
    refine ⟨_, hranges, ?_⟩
    simp only [Bool.and_eq_true, decide_eq_true_iff]
    omega

/-- The ways in which a character is quoted. -/
inductive Quotes (c : Char) : List Char → Prop
  /-- A letter stands for it. -/
  | letter {letter : Char} (hletter : ofLetter? letter = some c) : Quotes c ['\\', letter]
  /-- It is written as its code point. -/
  | code : Quotes c (codePoint c)
  /-- It stands for itself. -/
  | plain (hquote : c ≠ '"') (hslash : c ≠ '\\') (hcontrol : ¬ IsRawControl c) : Quotes c [c]

/-- Every character is quoted in one of these ways. -/
theorem quotes_quotedChar (c : Char) : Quotes c (quotedChar c) := by
  unfold quotedChar
  split_ifs with hquote hslash hnull htab hfeed hreturn hcode
  · subst hquote
    exact .letter rfl
  · subst hslash
    exact .letter rfl
  · subst hnull
    exact .letter rfl
  · subst htab
    exact .letter rfl
  · subst hfeed
    exact .letter rfl
  · subst hreturn
    exact .letter rfl
  · exact .code
  · apply Quotes.plain hquote hslash
    intro hcontrol
    apply hcode
    rw [isUnprintable_of_isRawControl hcontrol, Bool.or_true]

/-- The letters that stand for characters are graphic, and the one of code points is not among
them. -/
theorem of_ofLetter? {letter c : Char} (h : ofLetter? letter = some c) :
    letter ≠ 'u' ∧ ¬ IsRawControl letter := by
  constructor
  · rintro rfl
    cases h
  · intro hcontrol
    obtain ⟨pair, hpair, rfl⟩ : ∃ pair ∈ letters, pair.1 = letter := by
      have hsome : (letters.lookup letter).isSome = true := by rw [← ofLetter?, h]; rfl
      simpa [List.lookup_isSome_iff] using hsome
    have hgraphic : ∀ pair ∈ letters, ¬ IsRawControl pair.1 := by decide
    exact hgraphic pair hpair hcontrol

/-! ## What is read back -/

/-- A code point stands for its character. -/
theorem readQuotedFrom_codePoint (c : Char) (rest : List Char) :
    readQuotedFrom .inside (codePoint c ++ rest) =
      (readQuotedFrom .inside rest).map fun (text, rest) => (c :: text, rest) := by
  have hchars : codePoint c ++ rest =
      '\\' :: 'u' :: '\x7b' :: (Nat.toDigits 16 c.toNat ++ '\x7d' :: rest) := by
    simp [codePoint]
  rw [hchars]
  show readQuotedFrom (.code 0) (Nat.toDigits 16 c.toNat ++ '\x7d' :: rest) = _
  rw [readQuotedFrom_toDigits, readQuotedFrom, if_pos rfl, Char.ofNat_toNat]

/-- A quoted text starts with the character whose quoted form it starts with. -/
theorem readQuotedFrom_of_quotes {c : Char} {form : List Char} (h : Quotes c form)
    (rest : List Char) :
    readQuotedFrom .inside (form ++ rest) =
      (readQuotedFrom .inside rest).map fun (text, rest) => (c :: text, rest) := by
  cases h with
  | @letter letter hletter =>
    show readQuotedFrom .escape (letter :: rest) = _
    rw [readQuotedFrom, if_neg (of_ofLetter? hletter).1, hletter]
  | code => exact readQuotedFrom_codePoint c rest
  | plain hquote hslash => rw [List.singleton_append, readQuotedFrom, if_neg hquote, if_neg hslash]

/-- **Quoting loses nothing.** A quoted text is read back up to its closing quote, whatever
follows. -/
theorem readQuoted_quoted (text : String) (rest : List Char) :
    readQuoted ((quoted text).toList ++ rest) = some (text.toList, rest) := by
  have hinside : ∀ chars : List Char,
      readQuotedFrom .inside (chars.flatMap quotedChar ++ '"' :: rest) = some (chars, rest) := by
    intro chars
    induction chars with
    | nil => rfl
    | cons c chars ih =>
      rw [List.flatMap_cons, List.append_assoc, readQuotedFrom_of_quotes (quotes_quotedChar c), ih]
      rfl
  have hchars : (quoted text).toList ++ rest =
      '"' :: (text.toList.flatMap quotedChar ++ '"' :: rest) := by
    simp [quoted]
  rw [hchars]
  exact hinside text.toList

/-- Texts that are quoted in front of anything can be told apart, and so can what follows them. -/
theorem quoted_append_inj {text other rest last : String}
    (h : quoted text ++ rest = quoted other ++ last) : text = other ∧ rest = last := by
  have hchars : (quoted text).toList ++ rest.toList = (quoted other).toList ++ last.toList := by
    rw [← String.toList_append, h, String.toList_append]
  have hread := readQuoted_quoted text rest.toList
  rw [hchars, readQuoted_quoted, Option.some.injEq, Prod.mk.injEq] at hread
  exact ⟨String.toList_inj.mp hread.1.symm, String.toList_inj.mp hread.2.symm⟩

/-! ## Controls -/

/-- Nothing that a character is quoted as is a control. -/
theorem Quotes.not_control {c d : Char} {form : List Char} (h : Quotes c form) (hd : d ∈ form) :
    ¬ IsRawControl d := by
  cases h with
  | letter hletter =>
    rw [List.mem_cons, List.mem_singleton] at hd
    obtain rfl | rfl := hd
    · decide
    · exact (of_ofLetter? hletter).2
  | code =>
    simp only [codePoint, List.mem_append, List.mem_cons, List.not_mem_nil, or_false] at hd
    obtain (hopening | hdigits) | rfl := hd
    · revert d
      simp only [forall_eq_or_imp, forall_eq]
      decide
    · obtain ⟨digit, hlt, rfl⟩ := exists_of_mem_toDigits hdigits
      have hdigit : ∀ n < 16, ¬ IsRawControl (Nat.digitChar n) := by decide
      exact hdigit digit hlt
    · decide
  | plain _ _ hcontrol =>
    obtain rfl := List.mem_singleton.mp hd
    exact hcontrol

/-- A text without controls, which is therefore on one line. -/
def IsPlain (text : String) : Prop :=
  ∀ c ∈ text.toList, ¬ IsRawControl c

-- The characters of the text are gone through, and not all characters that there are.
instance : DecidablePred IsPlain := fun text =>
  List.decidableBAll (fun c => ¬ IsRawControl c) text.toList

namespace IsPlain

/-- **A quoted text holds no control**, whatever the text is. -/
theorem quoted (text : String) : IsPlain (Text.quoted text) := by
  intro c hc
  rw [Text.quoted, String.toList_ofList, List.mem_cons, List.mem_append, List.mem_flatMap,
    List.mem_singleton] at hc
  obtain rfl | ⟨d, -, hd⟩ | rfl := hc
  · decide
  · exact (quotes_quotedChar d).not_control hd
  · decide

theorem append {front back : String} (hfront : IsPlain front) (hback : IsPlain back) :
    IsPlain (front ++ back) := by
  unfold IsPlain
  rw [String.toList_append, List.forall_mem_append]
  exact ⟨hfront, hback⟩

/-- Numbers are written in digits. -/
theorem toString (n : Nat) : IsPlain (ToString.toString n) := by
  intro c hc
  rw [Nat.toString_eq_ofList_toDigits, String.toList_ofList] at hc
  have hdigit := toNat_of_isDigit (Nat.isDigit_of_mem_toDigits (by decide) (by decide) hc)
  unfold IsRawControl
  omega

/-- A text without controls has no line feed in it. -/
theorem ne_feed {text : String} (h : IsPlain text) : ∀ c ∈ text.toList, c ≠ '\n' := by
  rintro c hc rfl
  apply h _ hc
  decide

end IsPlain

end KnxExport.Text
