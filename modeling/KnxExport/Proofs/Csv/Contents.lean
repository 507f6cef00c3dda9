import KnxExport.Proofs.Csv.Marks
import KnxExport.Proofs.Csv.Record

/-!
# What the cells of a table hold

Every byte leaves a mark, and the cells of a table, one after the other, hold the bytes that are
marked to be kept. All other bytes are commas, quotes, line feeds and carriage returns, so nothing
else is lost, whatever the text looks like, and nothing is invented. The four are characters of one
byte: in the bytes of a text a cell never holds a part of a character.

Main statements: `flatten_table`, `kept_sublist` and `filter_kept`, the bytes of the cells;
`exists_table_encode`, the characters of the cells.
-/

namespace KnxExport.Csv

/-! ## Bytes -/

/-- A byte that is not one of the four by which a table is written. -/
def isContent (b : UInt8) : Bool :=
  b != comma && b != quote && !isBreak b

/-- A byte is kept, or it is one of the four. -/
theorem kept?_step (place : Place) (b : UInt8) :
    (step place b).2.kept? = some b ∨ (step place b).2.kept? = none ∧ isContent b = false := by
  have hcomma : isContent comma = false := by decide
  have hquote : isContent quote = false := by decide
  have hbreak : ∀ d, isBreak d = true → isContent d = false := by
    intro d hd
    simp [isContent, hd]
  cases place <;> simp only [step, stepStart, stepPlain] <;> split_ifs <;>
    simp_all [Mark.kept?]

/-- The bytes that are kept are bytes of the text, in their order. -/
theorem kept_sublist (place : Place) (input : List UInt8) :
    (kept (marks place input)).Sublist input := by
  induction input generalizing place with
  | nil => exact List.Sublist.slnil
  | cons b input ih =>
    rw [marks, kept, List.filterMap_cons]
    rcases kept?_step place b with hkept | ⟨hkept, -⟩
    · rw [hkept]
      exact (ih _).cons_cons b
    · rw [hkept]
      exact (ih _).cons b

/-- But for the four, every byte is kept. -/
theorem filter_kept (place : Place) (input : List UInt8) :
    (kept (marks place input)).filter isContent = input.filter isContent := by
  induction input generalizing place with
  | nil => rfl
  | cons b input ih =>
    have hrest := ih (step place b).1
    rw [marks, kept, List.filterMap_cons]
    rcases kept?_step place b with hkept | ⟨hkept, hspecial⟩
    · rw [hkept, List.filter_cons, List.filter_cons, ← kept, hrest]
    · rw [hkept, List.filter_cons_of_neg (by simp [hspecial]), ← kept, hrest]

/-- The cells of a table, one after the other, are the bytes that are kept. -/
theorem flatten_table (place : Place) (input : List UInt8) :
    (table place input).flatten.flatten = kept (marks place input) := by
  induction input generalizing place with
  | nil => cases place <;> rfl
  | cons b input ih =>
    rw [marks, kept, List.filterMap_cons, ← kept, ← ih (step place b).1]
    rcases table_cons_cases place b input with ⟨hmark, htable⟩ |
      ⟨cell, cells, rows, hmark, hrest, htable⟩ | ⟨cell, cells, rows, hmark, hrest, htable⟩ |
      ⟨hmark, htable⟩
    · rw [hmark, htable]
      rfl
    · rw [hmark, htable, hrest]
      rfl
    · rw [hmark, htable, hrest]
      rfl
    · rw [hmark, htable]
      rfl

/-- Every record has a cell. -/
theorem ne_nil_of_mem_table {place : Place} {input : List UInt8} :
    ∀ cells ∈ table place input, cells ≠ [] := by
  induction input generalizing place with
  | nil => cases place <;> simp [table, finish, Mark.before]
  | cons b input ih =>
    have hrecords := @ih (step place b).1
    rcases table_cons_cases place b input with ⟨-, htable⟩ |
      ⟨cell, cells, rows, -, hrest, htable⟩ | ⟨cell, cells, rows, -, hrest, htable⟩ | ⟨-, htable⟩
    · rw [htable]
      exact hrecords
    · rw [hrest, List.forall_mem_cons] at hrecords
      rw [htable, List.forall_mem_cons]
      exact ⟨List.cons_ne_nil _ _, hrecords.2⟩
    · rw [hrest, List.forall_mem_cons] at hrecords
      rw [htable, List.forall_mem_cons]
      exact ⟨List.cons_ne_nil _ _, hrecords.2⟩
    · rw [htable, List.forall_mem_cons]
      exact ⟨List.cons_ne_nil _ _, hrecords⟩

/-! ## Characters -/

/-- Where a cell goes on behind a byte that is none of the four. -/
def Place.within : Place → Place
  | .quoted => .quoted
  | _ => .plain

/-- The cells of rows as their bytes. -/
def encodeRows (rows : List (List String)) : List (List Cell) :=
  rows.map fun cells => cells.map Utf8.encode

/-- The characters in the cells of rows, one cell after the other. -/
def characters (rows : List (List String)) : List Char :=
  rows.flatten.flatMap String.toList

/-- The cells of the rows hold the characters, but for some of the four. -/
structure Holds (rows : List (List String)) (chars : List Char) : Prop where
  sublist : (characters rows).Sublist chars
  filter : (characters rows).filter (fun c => !isSpecial c) =
    chars.filter fun c => !isSpecial c

namespace Holds

variable {rows more : List (List String)} {cells : List String} {cell : String} {chars : List Char}

/-- A character in front that belongs to the first cell. -/
theorem keep (h : Holds ((cell :: cells) :: rows) chars) (c : Char) :
    Holds ((String.ofList (c :: cell.toList) :: cells) :: rows) (c :: chars) := by
  have hchars : characters ((String.ofList (c :: cell.toList) :: cells) :: rows) =
      c :: characters ((cell :: cells) :: rows) := by
    simp [characters]
  constructor
  · rw [hchars]
    exact h.sublist.cons_cons c
  · rw [hchars, List.filter_cons, List.filter_cons, h.filter]

/-- One of the four in front that belongs to no cell. -/
theorem drop (h : Holds rows chars) {c : Char} (hc : isSpecial c = true)
    (hsame : characters more = characters rows) : Holds more (c :: chars) := by
  constructor
  · rw [hsame]
    exact h.sublist.cons c
  · rw [hsame, h.filter, List.filter_cons_of_neg (by simp [hc])]

end Holds

/-- One more character in the first cell is that many more bytes in it. -/
theorem encodeRows_keep (c : Char) (cell : String) (cells : List String)
    (others : List (List String)) :
    encodeRows ((String.ofList (c :: cell.toList) :: cells) :: others) =
      ((String.utf8EncodeChar c ++ Utf8.encode cell) :: cells.map Utf8.encode) ::
        encodeRows others := by
  simp [encodeRows, Utf8.encode]

section Characters

variable {place : Place} {c : Char}

/-- Rows whose bytes have a first cell have one. -/
theorem exists_eq_cons_of_encodeRows {rows : List (List String)} {first : Cell} {more : List Cell}
    {others : List (List Cell)} (h : encodeRows rows = (first :: more) :: others) :
    ∃ cell cells rest, rows = (cell :: cells) :: rest := by
  rcases rows with _ | ⟨_ | ⟨cell, cells⟩, rest⟩
  · cases h
  · cases h
  · exact ⟨cell, cells, rest, rfl⟩

/-- The four are characters of one byte. -/
theorem exists_encodeChar_of_isSpecial (hc : isSpecial c = true) :
    ∃ b, String.utf8EncodeChar c = [b] := by
  have hascii : c.toNat < 128 := by
    simp only [isSpecial, Bool.or_eq_true, beq_iff_eq] at hc
    rcases hc with ((rfl | rfl) | rfl) | rfl <;> decide
  exact ⟨_, Utf8.encodeChar_ascii hascii⟩

/-- Of a character that is none of the four all bytes are kept, in one cell. -/
theorem table_encodeChar (hc : isSpecial c = false) {rest : List UInt8} {first : Cell}
    {more : List Cell} {rows : List (List Cell)}
    (hrest : table place.within rest = (first :: more) :: rows) :
    table place (String.utf8EncodeChar c ++ rest) =
      ((String.utf8EncodeChar c ++ first) :: more) :: rows := by
  have hstep : ∀ (place : Place), ∀ b ∈ String.utf8EncodeChar c,
      step place b = (place.within, .keep b) := by
    intro place b hb
    obtain ⟨⟨hcomma, hbreak⟩, hquote⟩ := isPlain_of_mem_encodeChar hc hb
    cases place <;> simp [step, stepStart, stepPlain, Place.within, hcomma, hbreak, hquote]
  have hwithin : place.within.within = place.within := by cases place <;> rfl
  have hbytes : ∀ bytes : List UInt8, (∀ b ∈ bytes, b ∈ String.utf8EncodeChar c) →
      table place.within (bytes ++ rest) = ((bytes ++ first) :: more) :: rows := by
    intro bytes hmem
    induction bytes with
    | nil => exact hrest
    | cons b bytes ih =>
      rw [List.forall_mem_cons] at hmem
      rw [List.cons_append, table, hstep _ b hmem.1, hwithin, ih hmem.2]
      rfl
  obtain ⟨b, bytes, hcons⟩ :=
    List.exists_cons_of_ne_nil (String.utf8EncodeChar_ne_nil (c := c))
  have hmem : ∀ d ∈ b :: bytes, d ∈ String.utf8EncodeChar c := by
    intro d hd
    rwa [hcons]
  rw [List.forall_mem_cons] at hmem
  rw [hcons, List.cons_append, table, hstep _ b hmem.1, hbytes bytes hmem.2]
  rfl

/-- **A cell never holds a part of a character.** The cells of the bytes of a text are the bytes of
texts, which hold the characters of the text in their order. Only commas, quotes, line feeds and
carriage returns may be missing. -/
theorem exists_table_encode (place : Place) (chars : List Char) :
    ∃ rows, table place (chars.flatMap String.utf8EncodeChar) = encodeRows rows ∧
      Holds rows chars := by
  induction chars generalizing place with
  | nil =>
    have hend : table place [] = encodeRows [] ∨ table place [] = encodeRows [[""]] := by
      cases place <;> simp [table, finish, Mark.before, encodeRows, Utf8.encode]
    rcases hend with hend | hend
    · exact ⟨[], hend, List.Sublist.slnil, rfl⟩
    · exact ⟨[[""]], hend, List.Sublist.slnil, rfl⟩
  | cons c chars ih =>
    rw [List.flatMap_cons]
    by_cases hc : isSpecial c = true
    · obtain ⟨b, hb⟩ := exists_encodeChar_of_isSpecial hc
      obtain ⟨rows, hrows, hholds⟩ := ih (step place b).1
      rw [hb, List.singleton_append]
      rcases table_cons_cases place b (chars.flatMap String.utf8EncodeChar) with ⟨-, htable⟩ |
        ⟨first, more, others, -, hrest, htable⟩ | ⟨first, more, others, -, hrest, htable⟩ |
        ⟨-, htable⟩
      · rw [htable, hrows]
        exact ⟨rows, rfl, hholds.drop hc rfl⟩
      · rw [hrows] at hrest
        obtain ⟨cell, cells, others, rfl⟩ := exists_eq_cons_of_encodeRows hrest
        cases hrest
        refine ⟨(String.ofList (c :: cell.toList) :: cells) :: others, ?_, hholds.keep c⟩
        rw [htable, encodeRows_keep, hb]
        rfl
      · rw [hrows] at hrest
        obtain ⟨cell, cells, others, rfl⟩ := exists_eq_cons_of_encodeRows hrest
        cases hrest
        rw [htable]
        exact ⟨("" :: cell :: cells) :: others, rfl, hholds.drop hc rfl⟩
      · rw [htable, hrows]
        exact ⟨[""] :: rows, rfl, hholds.drop hc rfl⟩
    · have hplain : isSpecial c = false := by simpa using hc
      have hwithin : place.within ≠ .between := by cases place <;> simp [Place.within]
      obtain ⟨rows, hrows, hholds⟩ := ih place.within
      obtain ⟨first, more, others, htable⟩ :=
        exists_table_eq_cons hwithin (chars.flatMap String.utf8EncodeChar)
      obtain ⟨cell, cells, others, rfl⟩ := exists_eq_cons_of_encodeRows (hrows.symm.trans htable)
      refine ⟨(String.ofList (c :: cell.toList) :: cells) :: others, ?_, hholds.keep c⟩
      rw [table_encodeChar hplain hrows, encodeRows_keep]
      rfl

end Characters

end KnxExport.Csv
