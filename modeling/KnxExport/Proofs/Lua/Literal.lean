import Mathlib.Tactic.SplitIfs
import KnxExport.Lua.Literal
import KnxExport.Text.Visible
import KnxExport.Proofs.Lua.Lexer
import KnxExport.Proofs.Text.Decimal
import KnxExport.Proofs.Text.Utf8

/-!
# Literals delimit themselves

The strings of Lua are sequences of bytes, and so are its programs. `StringReader` reads a string as
the language does, byte by byte from its opening quote: a letter or a sign behind a backslash stands
for one byte, up to three decimal digits there for the byte with this value, and a string that meets
the end of its line is an error. What else may follow a backslash is refused, as no literal has it.

A reader that is put in front of a literal ends right behind it, whatever follows, and has read the
bytes of the text. So no literal is the beginning of another one.

Main statement: `literal_self_delimiting`. It rests on `takes_of_escapes`, what the reader does over
one character of a literal, with a case for each way in which a character is escaped, and on
`takes_literal`, by induction over the characters.
-/

namespace KnxExport.Lua

open Text (digitValue isControl)

/-! ## A reader of strings -/

namespace StringReader

/-- Where a reader of a string stands. -/
inductive Place where
  /-- In front of the opening quote. -/
  | start
  /-- In the string. -/
  | inside
  /-- Behind a backslash. -/
  | escape
  /-- Behind digits of a decimal escape: their value, and how many more there may be. -/
  | decimal (value more : Nat)
  /-- Behind the closing quote. -/
  | closed
  deriving DecidableEq

/-- The letters and signs that stand for characters behind a backslash, with these characters. -/
def letters : List (Char × Char) :=
  [('a', '\x07'), ('b', '\x08'), ('f', '\x0c'), ('n', '\n'), ('r', '\r'), ('t', '\t'),
    ('v', '\x0b'), ('\\', '\\'), ('"', '"'), ('\x27', '\x27')]

/-- A byte as a character. ASCII characters are one byte each, and no other byte is one of them. -/
def asChar (b : UInt8) : Char :=
  Char.ofNat b.toNat

/-- One byte in a string: what it adds to the value, and the place behind it. -/
def stepInside (b : UInt8) : Option (List UInt8 × Place) :=
  if asChar b = '"' then some ([], .closed)
  else if isLineEnd (asChar b) then none
  else if asChar b = '\\' then some ([], .escape)
  else some ([b], .inside)

/-- One byte: what it adds to the value, and the place behind it. A decimal escape takes all the
digits that it may have, and the byte behind them is read as any other in the string. -/
def step : Place → UInt8 → Option (List UInt8 × Place)
  | .start, b => if asChar b = '"' then some ([], .inside) else none
  | .inside, b => stepInside b
  | .escape, b =>
    match letters.lookup (asChar b) with
    | some c => some ([UInt8.ofNat c.toNat], .inside)
    | none =>
      if (asChar b).isDigit then some ([], .decimal (digitValue (asChar b)) 2) else none
  | .decimal value more, b =>
    if (asChar b).isDigit ∧ 0 < more then
      some ([], .decimal (10 * value + digitValue (asChar b)) (more - 1))
    else if value < 256 then
      (stepInside b).map fun (chunk, next) => (UInt8.ofNat value :: chunk, next)
    else none
  | .closed, _ => none

/-- Reads on from a place: the rest of the value, and what follows the string. -/
def readFrom : Place → List UInt8 → Option (List UInt8 × List UInt8)
  | .closed, rest => some ([], rest)
  | _, [] => none
  | place, b :: bytes =>
    (step place b).bind fun (chunk, next) =>
      (readFrom next bytes).map fun (value, rest) => (chunk ++ value, rest)

/-- Reads a string from its opening quote: its value, and what follows its closing quote. -/
def readLiteral (bytes : List UInt8) : Option (List UInt8 × List UInt8) :=
  readFrom .start bytes

/-- Over these bytes the reader gets from one place to another and adds a chunk to the value,
whatever follows them. -/
def Takes (place : Place) (bytes chunk : List UInt8) (next : Place) : Prop :=
  ∀ rest, readFrom place (bytes ++ rest) =
    (readFrom next rest).map fun (value, rest) => (chunk ++ value, rest)

section Takes

variable {place next last : Place} {bytes more chunk later : List UInt8} {b : UInt8}

/-- The reader stays where it is over nothing. -/
theorem Takes.nil : Takes place [] [] place := by
  intro rest
  simp

/-- What is taken in two parts is taken in one. -/
theorem Takes.trans (h : Takes place bytes chunk next) (hmore : Takes next more later last) :
    Takes place (bytes ++ more) (chunk ++ later) last := by
  intro rest
  rw [List.append_assoc, h, hmore, Option.map_map]
  simp only [Function.comp_def, List.append_assoc]

/-- A step takes its byte. -/
theorem Takes.of_step (h : step place b = some (chunk, next)) : Takes place [b] chunk next := by
  intro rest
  rw [List.singleton_append, readFrom, h, Option.bind_some]
  rintro rfl
  cases h

/-- A run of bytes that each stand for themselves is taken as it is. -/
theorem takes_of_forall_step (h : ∀ b ∈ bytes, step .inside b = some ([b], .inside)) :
    Takes .inside bytes bytes .inside := by
  induction bytes with
  | nil => exact Takes.nil
  | cons b bytes ih =>
    rw [List.forall_mem_cons] at h
    exact (Takes.of_step h.1).trans (ih h.2)

/-- A decimal escape that has all its digits stands for its byte. -/
theorem takes_decimal {value : Nat} (h : value < 256) :
    Takes (.decimal value 0) [] [UInt8.ofNat value] .inside := by
  rintro (_ | ⟨b, rest⟩)
  · rfl
  · -- The byte behind the digits is no part of the escape, so it is read as in the string.
    have hstep : step (.decimal value 0) b =
        (step .inside b).map fun (chunk, next) => (UInt8.ofNat value :: chunk, next) := by
      simp [step, h]
    rw [List.nil_append, readFrom, readFrom, hstep]
    · rcases step .inside b with _ | ⟨chunk, next⟩
      · rfl
      · simp [Function.comp_def]
    · simp
    · simp

end Takes

/-! ## The bytes of ASCII characters -/

/-- A byte as a character has its code. -/
theorem toNat_asChar (b : UInt8) : (asChar b).toNat = b.toNat := by
  have hlt := b.toNat_lt
  rw [asChar, Char.ofNat, dif_pos (.inl (by omega))]
  rfl

/-- An ASCII character is read from its byte. -/
theorem asChar_ofNat {c : Char} (h : c.toNat < 128) : asChar (UInt8.ofNat c.toNat) = c := by
  rw [asChar, Utf8.toNat_ofNat (by omega), Char.ofNat_toNat]

/-- No byte of a character is another character of ASCII. -/
theorem asChar_eq_of_mem {c : Char} {b : UInt8} (hb : b ∈ String.utf8EncodeChar c)
    (h : (asChar b).toNat < 128) : asChar b = c := by
  refine (Utf8.eq_of_mem_encodeChar h ?_).symm
  rw [toNat_asChar, UInt8.ofNat_toNat]
  exact hb

/-- A character that is no quote, no backslash and no control is taken as it is. -/
theorem takes_plain {c : Char} (hquote : c ≠ '"') (hslash : c ≠ '\\')
    (hcontrol : isControl c = false) :
    Takes .inside (String.utf8EncodeChar c) (String.utf8EncodeChar c) .inside := by
  apply takes_of_forall_step
  intro b hb
  have hne : ∀ d : Char, d.toNat < 128 → c ≠ d → asChar b ≠ d := by
    rintro d hd hc rfl
    exact hc (asChar_eq_of_mem hb hd).symm
  have hfeed : c ≠ '\n' := by
    rintro rfl
    cases hcontrol
  have hreturn : c ≠ '\r' := by
    rintro rfl
    cases hcontrol
  have hend : isLineEnd (asChar b) = false := by
    simp [isLineEnd, hne '\n' (by decide) hfeed, hne '\r' (by decide) hreturn]
  rw [step, stepInside, if_neg (hne '"' (by decide) hquote), hend, if_neg (by simp),
    if_neg (hne '\\' (by decide) hslash)]

/-- A backslash opens an escape. -/
theorem takes_backslash : Takes .inside [UInt8.ofNat '\\'.toNat] [] .escape :=
  Takes.of_step rfl

/-- A letter that stands for a character is in the table. -/
theorem mem_letters_of_lookup {letter c : Char} (h : letters.lookup letter = some c) :
    (letter, c) ∈ letters := by
  obtain ⟨front, back, hletters, -⟩ := List.lookup_eq_some_iff.mp h
  rw [hletters]
  exact List.mem_append_right front List.mem_cons_self

/-- A letter behind a backslash is taken for its character. -/
theorem takes_letter {letter c : Char} (h : letters.lookup letter = some c) :
    Takes .inside (['\\', letter].flatMap String.utf8EncodeChar) (String.utf8EncodeChar c)
      .inside := by
  have hascii : letter.toNat < 128 ∧ c.toNat < 128 := by
    have htable : ∀ pair ∈ letters, pair.1.toNat < 128 ∧ pair.2.toNat < 128 := by decide
    exact htable _ (mem_letters_of_lookup h)
  have hletter : step .escape (UInt8.ofNat letter.toNat) =
      some ([UInt8.ofNat c.toNat], .inside) := by
    rw [step, asChar_ofNat hascii.1, h]
  rw [List.flatMap_cons, List.flatMap_singleton, Utf8.encodeChar_ascii (by decide),
    Utf8.encodeChar_ascii hascii.1, Utf8.encodeChar_ascii hascii.2]
  exact takes_backslash.trans (Takes.of_step hletter)

/-- A digit is no letter that stands for a character. -/
theorem lookup_digitChar {d : Nat} (h : d < 10) : letters.lookup (Nat.digitChar d) = none := by
  have htable : ∀ pair ∈ letters, pair.1.isDigit = false := by decide
  rw [List.lookup_eq_none_iff]
  intro pair hpair
  apply bne_iff_ne.mpr
  intro heq
  have hdigit := htable pair hpair
  rw [← heq, Nat.isDigit_digitChar, decide_eq_false_iff_not] at hdigit
  exact hdigit h

/-- Digits are ASCII characters. -/
theorem toNat_digitChar_lt {d : Nat} (h : d < 10) : (Nat.digitChar d).toNat < 128 := by
  rw [Nat.toNat_digitChar_of_lt_ten h]
  omega

/-- The first digit behind a backslash opens a decimal escape. -/
theorem takes_firstDigit {d : Nat} (h : d < 10) :
    Takes .escape [UInt8.ofNat (Nat.digitChar d).toNat] [] (.decimal d 2) := by
  apply Takes.of_step
  rw [step, asChar_ofNat (toNat_digitChar_lt h), lookup_digitChar h,
    Text.digitValue_digitChar h, Nat.isDigit_digitChar]
  simp [h]

/-- Any other digit that a decimal escape may have belongs to it. -/
theorem takes_nextDigit {d : Nat} (h : d < 10) (value more : Nat) :
    Takes (.decimal value (more + 1)) [UInt8.ofNat (Nat.digitChar d).toNat] []
      (.decimal (10 * value + d) more) := by
  apply Takes.of_step
  rw [step, asChar_ofNat (toNat_digitChar_lt h), Text.digitValue_digitChar h, Nat.isDigit_digitChar]
  simp [h]

/-- Three digits behind a backslash are taken for the ASCII character with this code, also in front
of another digit. -/
theorem takes_threeDigits {c : Char} (h : c.toNat < 128) :
    Takes .inside (('\\' :: threeDigits c.toNat).flatMap String.utf8EncodeChar)
      (String.utf8EncodeChar c) .inside := by
  have hlt : ∀ n, n % 10 < 10 := fun n => Nat.mod_lt n (by decide)
  have hascii : ∀ n, String.utf8EncodeChar (Nat.digitChar (n % 10)) =
      [UInt8.ofNat (Nat.digitChar (n % 10)).toNat] := fun n =>
    Utf8.encodeChar_ascii (toNat_digitChar_lt (hlt n))
  have hvalue : 10 * (10 * (c.toNat / 100 % 10) + c.toNat / 10 % 10) + c.toNat % 10 =
      c.toNat := by omega
  have hfirst := takes_backslash.trans (takes_firstDigit (hlt (c.toNat / 100)))
  have hsecond := hfirst.trans (takes_nextDigit (hlt (c.toNat / 10)) _ _)
  have hthird := hsecond.trans (takes_nextDigit (hlt c.toNat) _ _)
  rw [hvalue] at hthird
  rw [threeDigits, List.flatMap_cons, List.flatMap_cons, List.flatMap_cons, List.flatMap_singleton,
    hascii, hascii, hascii, Utf8.encodeChar_ascii (by decide), Utf8.encodeChar_ascii h]
  exact hthird.trans (takes_decimal (by omega))

end StringReader

/-! ## How a character is escaped -/

/-- The ways in which a character stands in a literal. -/
inductive Escapes (c : Char) : List Char → Prop
  /-- A letter stands for it. -/
  | letter {letter : Char} (hletter : StringReader.letters.lookup letter = some c) :
      Escapes c ['\\', letter]
  /-- Three digits stand for it. -/
  | decimal (hascii : c.toNat < 128) : Escapes c ('\\' :: threeDigits c.toNat)
  /-- It stands for itself. -/
  | plain (hquote : c ≠ '"') (hslash : c ≠ '\\') (hcontrol : isControl c = false) : Escapes c [c]

/-- Every character is escaped in one of these ways. -/
theorem escapes_escapeChar (c : Char) : Escapes c (escapeChar c) := by
  unfold escapeChar
  split_ifs with hquote hslash hfeed hreturn htab hcontrol
  · subst hquote
    exact .letter rfl
  · subst hslash
    exact .letter rfl
  · subst hfeed
    exact .letter rfl
  · subst hreturn
    exact .letter rfl
  · subst htab
    exact .letter rfl
  · exact .decimal (by omega)
  · rw [not_or] at hcontrol
    apply Escapes.plain hquote hslash
    simp [isControl, hcontrol]

/-- Nothing that a character is escaped as is a control. -/
theorem Escapes.isControl_eq_false {c d : Char} {form : List Char} (h : Escapes c form)
    (hd : d ∈ form) : isControl d = false := by
  cases h with
  | @letter letter hletter =>
    have htable : ∀ pair ∈ StringReader.letters, isControl pair.1 = false := by decide
    rw [List.mem_cons, List.mem_singleton] at hd
    rcases hd with rfl | rfl
    · rfl
    · exact htable _ (StringReader.mem_letters_of_lookup hletter)
  | decimal =>
    have hdigit : ∀ n, isControl (Nat.digitChar (n % 10)) = false := by
      intro n
      have hcode := Nat.toNat_digitChar_of_lt_ten (Nat.mod_lt n (by decide : 0 < 10))
      simp only [isControl, hcode, Bool.or_eq_false_iff, decide_eq_false_iff_not]
      omega
    simp only [threeDigits, List.mem_cons, List.not_mem_nil, or_false] at hd
    rcases hd with rfl | rfl | rfl | rfl
    · rfl
    · exact hdigit _
    · exact hdigit _
    · exact hdigit _
  | plain _ _ hcontrol =>
    rw [List.mem_singleton] at hd
    rw [hd, hcontrol]

/-- There is no control in a literal. -/
theorem isControl_of_mem_literal {text : String} {c : Char} (h : c ∈ (literal text).toList) :
    isControl c = false := by
  simp only [literal, String.toList_ofList, List.mem_cons, List.mem_append, List.mem_flatMap,
    List.not_mem_nil, or_false] at h
  rcases h with rfl | ⟨d, -, hd⟩ | rfl
  · rfl
  · exact (escapes_escapeChar d).isControl_eq_false hd
  · rfl

/-! ## What is read back -/

open StringReader

/-- An escaped character is taken for its bytes. -/
theorem takes_of_escapes {c : Char} {form : List Char} (h : Escapes c form) :
    Takes .inside (form.flatMap String.utf8EncodeChar) (String.utf8EncodeChar c) .inside := by
  cases h with
  | letter hletter => exact takes_letter hletter
  | decimal hascii => exact takes_threeDigits hascii
  | plain hquote hslash hcontrol =>
    rw [List.flatMap_singleton]
    exact takes_plain hquote hslash hcontrol

/-- Escaped characters are taken for their bytes, one after the other. -/
theorem takes_escaped (chars : List Char) :
    Takes .inside ((chars.flatMap escapeChar).flatMap String.utf8EncodeChar)
      (chars.flatMap String.utf8EncodeChar) .inside := by
  induction chars with
  | nil => exact Takes.nil
  | cons c chars ih =>
    rw [List.flatMap_cons, List.flatMap_append, List.flatMap_cons]
    exact (takes_of_escapes (escapes_escapeChar c)).trans ih

/-- A literal is taken for the bytes of its text, from its first quote to its last one. -/
theorem takes_literal (text : String) :
    Takes .start (Utf8.encode (literal text)) (Utf8.encode text) .closed := by
  have hopen : step .start (UInt8.ofNat '"'.toNat) = some ([], .inside) := rfl
  have hclose : step .inside (UInt8.ofNat '"'.toNat) = some ([], .closed) := rfl
  have htakes := ((Takes.of_step hopen).trans (takes_escaped text.toList)).trans
    (Takes.of_step hclose)
  have hbytes : Utf8.encode (literal text) = [UInt8.ofNat '"'.toNat] ++
      (text.toList.flatMap escapeChar).flatMap String.utf8EncodeChar ++
        [UInt8.ofNat '"'.toNat] := by
    rw [Utf8.encode, literal, String.toList_ofList, List.flatMap_cons, List.flatMap_append,
      List.flatMap_singleton, Utf8.encodeChar_ascii (by decide), List.append_assoc]
  rw [hbytes, Utf8.encode]
  simpa using htakes

/-- A literal is read up to its end, whatever follows. -/
theorem readLiteral_literal (text : String) (rest : List UInt8) :
    readLiteral (Utf8.encode (literal text) ++ rest) = some (Utf8.encode text, rest) := by
  rw [readLiteral, takes_literal, readFrom, Option.map_some]
  simp only [List.append_nil]

/-- Literals in front of anything can be told apart, and so can what follows them. -/
theorem literal_append_inj {text other rest last : String}
    (h : literal text ++ rest = literal other ++ last) : text = other ∧ rest = last := by
  have hread := readLiteral_literal text (Utf8.encode rest)
  rw [← Utf8.encode_append, h, Utf8.encode_append, readLiteral_literal, Option.some.injEq,
    Prod.mk.injEq] at hread
  exact ⟨(Utf8.encode_injective hread.1).symm, (Utf8.encode_injective hread.2).symm⟩

/-- **Literals delimit themselves and lose nothing.** From its opening quote on, the literal of a
text is read as the bytes of this text, and the reader stops right behind its closing quote,
whatever follows. There is no ASCII control in it. So texts with one literal are the same, and no
literal is the beginning of another one. -/
theorem literal_self_delimiting (text : String) :
    (∀ rest, readLiteral (Utf8.encode (literal text) ++ rest) = some (Utf8.encode text, rest)) ∧
    (∀ c ∈ (literal text).toList, isControl c = false) ∧
    (∀ other, literal other = literal text ↔ other = text) ∧
    (∀ other, (literal other).toList <+: (literal text).toList ↔ other = text) := by
  have hfront : ∀ other, (literal other).toList <+: (literal text).toList → other = text := by
    rintro other ⟨more, hmore⟩
    have hsame : literal other ++ String.ofList more = literal text ++ "" := by
      apply String.toList_injective
      simpa using hmore
    exact (literal_append_inj hsame).1
  refine ⟨readLiteral_literal text, fun c hc => isControl_of_mem_literal hc, ?_, ?_⟩
  · intro other
    constructor
    · intro hsame
      have happend : literal other ++ "" = literal text ++ "" := by rw [hsame]
      exact (literal_append_inj happend).1
    · rintro rfl
      rfl
  · intro other
    constructor
    · exact hfront other
    · rintro rfl
      exact List.prefix_rfl

/-- A control in front of a digit, and a quote in front of the closing one, with another quote and a
digit behind it. -/
example : literal "\x001\"" = "\"\\0001\\\"\"" ∧ readLiteral (Utf8.encode "\"\\0001\\\"\"\"1") =
    some (Utf8.encode "\x001\"", Utf8.encode "\"1") := by
  decide

end KnxExport.Lua
