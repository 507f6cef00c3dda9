import Mathlib.Data.List.Basic
import KnxExport.Proofs.Text.Lines
import KnxExport.Text.Blank

/-!
# Texts as lines with breaks between them

A break is a line feed, a carriage return, or both in this order. Every text is one sequence of
lines with breaks between them, if a carriage return and the line feed behind it are one break:
`Cut` says so without the functions that cut a text.

Main statements: `exists_cut`, every text has a cut; `pieces_eq_of_cut`, its lines are the pieces of
the text, whatever breaks stand between them.
-/

namespace KnxExport.Text

/-! ## Breaks and lines -/

/-- A line break. -/
inductive Break where
  | feed
  /-- A carriage return and the line feed behind it. -/
  | returnFeed
  /-- A carriage return on its own. -/
  | loneReturn
  deriving DecidableEq, Repr

/-- The characters of a break. -/
def Break.chars : Break → List Char
  | feed => ['\n']
  | returnFeed => ['\r', '\n']
  | loneReturn => ['\r']

/-- The line holds no break. -/
def Unbroken (line : List Char) : Prop :=
  ∀ c ∈ line, c ≠ '\n' ∧ c ≠ '\r'

/-- The first line, and further lines with a break in front of each. -/
def joined (first : List Char) : List (Break × List Char) → List Char
  | [] => first
  | (b, line) :: more => first ++ (b.chars ++ joined line more)

/-- The lines that are joined. -/
def joinedLines (first : List Char) (more : List (Break × List Char)) : List (List Char) :=
  first :: more.map Prod.snd

/-- No carriage return on its own stands directly before a line feed. -/
def Apart : List (Break × List Char) → Prop
  | [] => True
  | (b, line) :: more => (b = .loneReturn → (joined line more).head? ≠ some '\n') ∧ Apart more

/-- The text is these lines with these breaks between them. -/
structure Cut (text first : List Char) (more : List (Break × List Char)) : Prop where
  eq_joined : text = joined first more
  unbroken : ∀ line ∈ joinedLines first more, Unbroken line
  apart : Apart more

section Join

variable {first : List Char} {more : List (Break × List Char)}

/-- Every break ends with one of its characters. -/
theorem Break.getLast?_chars (b : Break) : ∃ c ∈ b.chars.getLast?, c = '\n' ∨ c = '\r' := by
  cases b with
  | feed => exact ⟨'\n', rfl, .inl rfl⟩
  | returnFeed => exact ⟨'\n', rfl, .inl rfl⟩
  | loneReturn => exact ⟨'\r', rfl, .inr rfl⟩

/-- A line behind others is the last one if there is none behind it. -/
theorem getLast?_joinedLines_cons (b : Break) (line : List Char) :
    (joinedLines first ((b, line) :: more)).getLast? = (joinedLines line more).getLast? := by
  unfold joinedLines
  rw [List.map_cons, List.getLast?_cons_cons]

/-- A text ends as its last line does, and with a break if this line is empty and not the only
one. -/
theorem getLast?_joined (first : List Char) (more : List (Break × List Char)) :
    ∃ last ∈ (joinedLines first more).getLast?,
      (last ≠ [] → (joined first more).getLast? = last.getLast?) ∧
      (last = [] → joined first more ≠ [] →
        ∃ c ∈ (joined first more).getLast?, c = '\n' ∨ c = '\r') := by
  induction more generalizing first with
  | nil =>
    refine ⟨first, rfl, fun _ => rfl, ?_⟩
    intro hlast hne
    exact absurd hlast hne
  | cons entry more ih =>
    obtain ⟨b, line⟩ := entry
    obtain ⟨last, hlast, hfull, hempty⟩ := ih line
    rw [getLast?_joinedLines_cons]
    refine ⟨last, hlast, ?_, ?_⟩
    · intro hne
      have hrest := hfull hne
      rw [joined, List.getLast?_append, List.getLast?_append, hrest,
        List.getLast?_eq_some_getLast hne]
      rfl
    · intro hnil _
      rw [joined, List.getLast?_append, List.getLast?_append]
      by_cases hrest : joined line more = []
      · -- Nothing follows the break, so it is what the text ends with.
        obtain ⟨c, hc, hbreak⟩ := b.getLast?_chars
        refine ⟨c, ?_, hbreak⟩
        rw [hrest, Option.mem_def.mp hc]
        rfl
      · obtain ⟨c, hc, hbreak⟩ := hempty hnil hrest
        refine ⟨c, ?_, hbreak⟩
        rw [Option.mem_def.mp hc]
        rfl

end Join

/-! ## Every text has a cut -/

section Cut

variable {text first : List Char} {more : List (Break × List Char)}

/-- A text behind a break has its lines behind an empty one. -/
theorem Cut.cons_break (h : Cut text first more) {b : Break}
    (hb : b = .loneReturn → text.head? ≠ some '\n') :
    Cut (b.chars ++ text) [] ((b, first) :: more) where
  eq_joined := by
    rw [h.eq_joined]
    rfl
  unbroken := List.forall_mem_cons.mpr ⟨by simp [Unbroken], h.unbroken⟩
  apart := ⟨by rwa [← h.eq_joined], h.apart⟩

/-- A text behind another character has this character in its first line. -/
theorem Cut.cons_char (h : Cut text first more) {c : Char} (hfeed : c ≠ '\n') (hreturn : c ≠ '\r') :
    Cut (c :: text) (c :: first) more where
  eq_joined := by
    rw [h.eq_joined]
    cases more <;> rfl
  unbroken := by
    obtain ⟨hfirst, hmore⟩ := List.forall_mem_cons.mp h.unbroken
    refine List.forall_mem_cons.mpr ⟨?_, hmore⟩
    exact List.forall_mem_cons.mpr ⟨⟨hfeed, hreturn⟩, hfirst⟩
  apart := h.apart

/-- **Every text has a cut.** -/
theorem exists_cut (text : List Char) : ∃ first more, Cut text first more := by
  fun_induction pieces text with
  | case1 => exact ⟨[], [], rfl, by simp [joinedLines, Unbroken], trivial⟩
  | case2 text ih =>
    obtain ⟨first, more, hcut⟩ := ih
    exact ⟨_, _, hcut.cons_break (b := .returnFeed) (by simp)⟩
  | case3 c text hboth hbreak ih =>
    obtain ⟨first, more, hcut⟩ := ih
    rcases hbreak with rfl | rfl
    · exact ⟨_, _, hcut.cons_break (b := .feed) (by simp)⟩
    · refine ⟨_, _, hcut.cons_break (b := .loneReturn) ?_⟩
      rintro - hhead
      obtain ⟨rest, rfl⟩ := List.head?_eq_some_iff.mp hhead
      exact hboth rest rfl rfl
  | case4 c text _ hbreak ih =>
    obtain ⟨first, more, hcut⟩ := ih
    rw [not_or] at hbreak
    exact ⟨_, _, hcut.cons_char hbreak.1 hbreak.2⟩

/-! ## The lines of a cut are the pieces -/

/-- A line belongs to the first piece of a text. -/
theorem pieces_append {line : List Char} (h : Unbroken line) (text : List Char) :
    pieces (line ++ text) = (pieces text).modifyHead (line ++ ·) := by
  obtain ⟨piece, rest, hpieces⟩ := List.exists_cons_of_ne_nil (pieces_ne_nil text)
  induction line with
  | nil =>
    rw [List.nil_append, hpieces]
    rfl
  | cons c line ih =>
    obtain ⟨⟨hfeed, hreturn⟩, hline⟩ := List.forall_mem_cons.mp h
    rw [List.cons_append, pieces_cons hfeed hreturn, ih hline, hpieces]
    rfl

/-- A break ends a piece. -/
theorem pieces_break {b : Break} {text : List Char}
    (h : b = .loneReturn → text.head? ≠ some '\n') :
    pieces (b.chars ++ text) = [] :: pieces text := by
  cases b with
  | feed => exact pieces_feed text
  | returnFeed => rfl
  | loneReturn => exact pieces_return (h rfl)

/-- **The lines are the pieces of the text**, whatever breaks stand between them. -/
theorem pieces_eq_of_cut (h : Cut text first more) : pieces text = joinedLines first more := by
  obtain ⟨rfl, hlines, hapart⟩ := h
  induction more generalizing first with
  | nil =>
    have hfirst := pieces_append (hlines first List.mem_cons_self) []
    rw [List.append_nil] at hfirst
    rw [joined, hfirst]
    exact congrArg (fun line => [line]) (List.append_nil first)
  | cons entry more ih =>
    obtain ⟨b, line⟩ := entry
    obtain ⟨hfirst, hrest⟩ := List.forall_mem_cons.mp hlines
    obtain ⟨hb, hmore⟩ := hapart
    rw [joined, pieces_append hfirst, pieces_break hb, ih hrest hmore, List.modifyHead_cons,
      List.append_nil]
    rfl

end Cut

end KnxExport.Text
