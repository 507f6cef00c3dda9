import KnxExport.Lua.Annotations
import KnxExport.Proofs.Text.Breaks

/-!
# The lines of a comment

A text that is not empty is written as a comment with one line for each line of its own. What
breaks stand between its lines makes no difference, so a description that was typed on another
system, or whose breaks were converted, gives the same documentation. Only a line feed at the very
end counts for nothing, and a description without blanks around it has none there.

Main statement: `comment_by_breaks`.
-/

namespace KnxExport

namespace Text

/-- A trimmed text does not end with a blank. -/
theorem isBlank_of_getLast?_trim {text : String} {c : Char}
    (h : c ∈ (trim text).toList.getLast?) : isBlank c = false := by
  unfold trim trimBlanks at h
  rw [String.toList_ofList, List.getLast?_reverse, Option.mem_def] at h
  have hhead := List.head?_dropWhile_not isBlank (text.toList.dropWhile isBlank).reverse
  rw [h] at hhead
  simpa using hhead

variable {text first : List Char} {more : List (Break × List Char)}

/-- The last line of a text that ends with a line feed is empty. -/
theorem Cut.getLast?_of_feed (h : Cut text first more) (hfeed : text.getLast? = some '\n') :
    (joinedLines first more).getLast? = some [] := by
  obtain ⟨last, hlast, hfull, -⟩ := getLast?_joined first more
  rw [Option.mem_def.mp hlast]
  by_contra hne
  have hend := hfull fun hnil => hne (congrArg some hnil)
  rw [← h.eq_joined, hfeed] at hend
  have hbreak := h.unbroken last (List.mem_of_getLast? hlast) '\n' (List.mem_of_getLast? hend.symm)
  exact hbreak.1 rfl

/-- The last line of a text that neither is empty nor ends with a break is not empty. -/
theorem Cut.getLast?_of_not_break (h : Cut text first more) (hne : text ≠ [])
    (hend : ∀ c ∈ text.getLast?, c ≠ '\n' ∧ c ≠ '\r') :
    (joinedLines first more).getLast? ≠ some [] := by
  obtain ⟨last, hlast, -, hempty⟩ := getLast?_joined first more
  rw [Option.mem_def.mp hlast, ← h.eq_joined] at *
  intro hnil
  obtain ⟨c, hc, hbreak⟩ := hempty (Option.some.inj hnil) hne
  have hother := hend c hc
  rcases hbreak with rfl | rfl
  · exact hother.1 rfl
  · exact hother.2 rfl

end Text

namespace Lua.Annotations

open Text (Apart Break Cut Unbroken joined joinedLines)

variable {text first : List Char} {more : List (Break × List Char)}

/-- A text as lines with breaks between them is written as these lines, but for the last one if the
text ends with a line feed. -/
theorem comment_of_cut {text : String} (h : Cut text.toList first more) (hne : text ≠ "") :
    comment text =
      (if text.toList.getLast? = some '\n' then (joinedLines first more).dropLast
        else joinedLines first more).map fun line => "--- " ++ String.ofList line := by
  have htext : text.toList ≠ [] := by simpa using hne
  have hcut : Text.cutLines text.toList =
      if text.toList.getLast? = some '\n' then (joinedLines first more).dropLast
        else joinedLines first more := by
    rw [Text.cutLines, Text.pieces_eq_of_cut h]
    simp only [htext, false_or]
  rw [comment, Text.lines_eq_cutLines, hcut]

/-- **A comment has one line for each line of its text.** Every text has one sequence of lines with
breaks between them: line feeds, carriage returns with a line feed behind them, and carriage returns
without one. None of the lines holds a break, and a text that is not empty is written as these
lines, each with the mark of a comment in front, but for the last one if the text ends with a line
feed; that line is empty. So lines the last of which is not empty are documented in the same way
whatever breaks are put between them, as long as no carriage return comes to stand directly before a
line feed, and the last line of a trimmed description is not empty. -/
theorem comment_by_breaks :
    (∀ text : String, text ≠ "" →
      ∃ lines, (∃ first more, Cut text.toList first more) ∧
        (∀ first more, Cut text.toList first more → joinedLines first more = lines) ∧
        (∀ line ∈ lines, Unbroken line) ∧
        (text.toList.getLast? = some '\n' → lines.getLast? = some [] ∧
          comment text = lines.dropLast.map fun line => "--- " ++ String.ofList line) ∧
        (text.toList.getLast? ≠ some '\n' →
          comment text = lines.map fun line => "--- " ++ String.ofList line)) ∧
    (∀ (first : List Char) (more : List (Break × List Char)),
      (∀ line ∈ joinedLines first more, Unbroken line) → Apart more →
      (joinedLines first more).getLast? ≠ some [] →
      comment (String.ofList (joined first more)) =
        (joinedLines first more).map fun line => "--- " ++ String.ofList line) ∧
    (∀ description : String, Text.trim description ≠ "" → ∀ first more,
      Cut (Text.trim description).toList first more →
      (joinedLines first more).getLast? ≠ some []) := by
  refine ⟨?_, ?_, ?_⟩
  · intro text hne
    obtain ⟨first, more, hcut⟩ := Text.exists_cut text.toList
    have hcomment := comment_of_cut hcut hne
    refine ⟨joinedLines first more, ⟨first, more, hcut⟩, ?_, hcut.unbroken, ?_, ?_⟩
    · intro other others hother
      rw [← Text.pieces_eq_of_cut hother, Text.pieces_eq_of_cut hcut]
    · intro hfeed
      rw [if_pos hfeed] at hcomment
      exact ⟨hcut.getLast?_of_feed hfeed, hcomment⟩
    · intro hfeed
      rwa [if_neg hfeed] at hcomment
  · intro first more hlines hapart hlast
    have hcut : Cut (String.ofList (joined first more)).toList first more :=
      ⟨String.toList_ofList, hlines, hapart⟩
    have hfeed : (String.ofList (joined first more)).toList.getLast? ≠ some '\n' := by
      intro hfeed
      exact hlast (hcut.getLast?_of_feed hfeed)
    have hne : String.ofList (joined first more) ≠ "" := by
      intro hempty
      have hpieces := Text.pieces_eq_of_cut hcut
      rw [hempty] at hpieces
      exact hlast (congrArg List.getLast? hpieces.symm)
    rw [comment_of_cut hcut hne, if_neg hfeed]
  · intro description hne first more hcut
    refine hcut.getLast?_of_not_break (by simpa using hne) ?_
    intro c hc
    have hblank := Text.isBlank_of_getLast?_trim hc
    constructor
    · rintro rfl
      exact absurd hblank (by decide)
    · rintro rfl
      exact absurd hblank (by decide)

/-- Breaks of all kinds next to each other: a carriage return before another one that belongs to a
line feed, a line feed before a carriage return, and a break at either end. The same lines are
documented if line feeds are put between them. -/
theorem comment_by_breaks_mixed :
    comment "\ra\r\r\n\n\rb" = ["--- ", "--- a", "--- ", "--- ", "--- ", "--- b"] ∧
      comment "\na\n\n\n\nb" = ["--- ", "--- a", "--- ", "--- ", "--- ", "--- b"] := by
  obtain ⟨-, hjoined, -⟩ := comment_by_breaks
  have hunbroken : ∀ line ∈ [[], ['a'], [], [], [], ['b']], Unbroken line := by
    simp [Unbroken]
  constructor
  · exact hjoined [] [(.loneReturn, ['a']), (.loneReturn, []), (.returnFeed, []), (.feed, []),
      (.loneReturn, ['b'])] hunbroken (by simp [Apart, joined, Break.chars]) (by simp [joinedLines])
  · exact hjoined [] [(.feed, ['a']), (.feed, []), (.feed, []), (.feed, []), (.feed, ['b'])]
      hunbroken (by simp [Apart]) (by simp [joinedLines])

end Lua.Annotations

end KnxExport
