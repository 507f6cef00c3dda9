import Mathlib.Tactic.ByContra
import KnxExport.Text.Lines

/-!
# What lines are

`lines` cuts a text at its line feeds first and at its carriage returns then. `pieces` cuts it in
one go: at a carriage return with a line feed behind it, which is one break, and at every other line
feed and carriage return. The two agree, but that a line feed at the very end has no piece behind
it.

Main statements: `lines_eq_cutLines`, lines are these pieces; `not_break_of_mem_lines`, no line of
any text holds a line feed or a carriage return.
-/

namespace KnxExport.Text

/-- A character of one class is none of the characters of another. -/
theorem contains_eq_false {p : Char → Bool} {c : Char} {cs : List Char} (h : p c = true)
    (hcs : cs.any p = false) : cs.contains c = false := by
  by_contra hmem
  have hc := List.any_eq_false.mp hcs c (by simpa using hmem)
  exact hc h

/-! ## Lines hold no breaks -/

/-- A piece of a text that is cut at a character has the characters of the text but for this one. -/
theorem mem_and_ne_of_mem_splitOn {sep : Char} {text piece : List Char}
    (h : piece ∈ text.splitOn sep) : ∀ c ∈ piece, c ∈ text ∧ c ≠ sep := by
  induction text generalizing piece with
  | nil =>
    obtain rfl : piece = [] := by simpa using h
    simp
  | cons d text ih =>
    have hlater : ∀ later ∈ text.splitOn sep, ∀ c ∈ later, c ∈ d :: text ∧ c ≠ sep := by
      intro later hmem c hc
      obtain ⟨htext, hne⟩ := ih hmem c hc
      exact ⟨List.mem_cons_of_mem d htext, hne⟩
    rw [List.splitOn_cons_eq_if_modifyHead] at h
    split at h
    · obtain rfl | hmem := List.mem_cons.mp h
      · simp
      · exact hlater piece hmem
    · next hsep =>
      obtain ⟨first, rest, hpieces⟩ := List.exists_cons_of_ne_nil (List.splitOn_ne_nil sep text)
      rw [hpieces, List.modifyHead_cons, List.mem_cons] at h
      rw [hpieces, List.forall_mem_cons] at hlater
      obtain rfl | hmem := h
      · intro c hc
        obtain rfl | hfirst := List.mem_cons.mp hc
        · exact ⟨List.mem_cons_self, by simpa using hsep⟩
        · exact hlater.1 c hfirst
      · exact hlater.2 piece hmem

/-- A text that is cut at a character has one piece more than it has of these characters. -/
theorem length_splitOn (sep : Char) (text : List Char) :
    (text.splitOn sep).length = text.count sep + 1 := by
  induction text with
  | nil => rfl
  | cons c text ih =>
    rw [List.splitOn_cons_eq_if_modifyHead, List.count_cons]
    split
    · rw [List.length_cons, ih]
    · rw [List.length_modifyHead, ih, Nat.add_zero]

/-- What line feeds end holds none of them. -/
theorem ne_feed_of_mem_feedLines {text line : List Char} (h : line ∈ feedLines text) :
    ∀ c ∈ line, c ≠ '\n' := by
  have hpieces : ∀ piece ∈ text.splitOn '\n', ∀ c ∈ piece, c ≠ '\n' := by
    intro piece hpiece c hc
    exact (mem_and_ne_of_mem_splitOn hpiece c hc).2
  simp only [feedLines, List.mem_append, List.mem_map] at h
  obtain ⟨piece, hpiece, rfl⟩ | hlast := h
  · intro c hc
    refine hpieces piece (List.dropLast_subset _ hpiece) c ?_
    unfold dropReturn at hc
    split at hc
    · exact List.dropLast_subset _ hc
    · exact hc
  · split at hlast
    · simp at hlast
    · next hne =>
      obtain rfl := List.mem_singleton.mp hlast
      cases hrest : (text.splitOn '\n').getLast? with
      | none => simp [hrest] at hne
      | some rest => exact hpieces rest (List.mem_of_getLast? hrest)

/-- **No line holds a break.** -/
theorem not_break_of_mem_lines {text line : List Char} (h : line ∈ lines text) :
    ∀ c ∈ line, c ≠ '\n' ∧ c ≠ '\r' := by
  obtain ⟨fed, hfed, hline⟩ := List.mem_flatMap.mp h
  intro c hc
  obtain ⟨hmem, hne⟩ := mem_and_ne_of_mem_splitOn hline c hc
  exact ⟨ne_feed_of_mem_feedLines hfed c hmem, hne⟩

/-! ## Lines are the pieces between breaks -/

/-- The pieces of a text between its breaks. -/
def pieces : List Char → List (List Char)
  | [] => [[]]
  | '\r' :: '\n' :: text => [] :: pieces text
  | c :: text =>
    if c = '\n' ∨ c = '\r' then [] :: pieces text else (pieces text).modifyHead (c :: ·)

/-- The pieces of a text, without the empty one that an empty text or a line feed at the very end
leaves. -/
def cutLines (text : List Char) : List (List Char) :=
  if text = [] ∨ text.getLast? = some '\n' then (pieces text).dropLast else pieces text

/-- A line feed ends a piece. -/
theorem pieces_feed (text : List Char) : pieces ('\n' :: text) = [] :: pieces text := by
  rw [pieces]
  · simp
  · simp

/-- A carriage return without a line feed behind it ends a piece, too. -/
theorem pieces_return {text : List Char} (h : text.head? ≠ some '\n') :
    pieces ('\r' :: text) = [] :: pieces text := by
  rw [pieces]
  · simp
  · rintro rest - rfl
    exact h rfl

/-- Any other character belongs to the first piece. -/
theorem pieces_cons {c : Char} (hfeed : c ≠ '\n') (hreturn : c ≠ '\r') (text : List Char) :
    pieces (c :: text) = (pieces text).modifyHead (c :: ·) := by
  rw [pieces]
  · simp [hfeed, hreturn]
  · rintro rest rfl
    exact absurd rfl hreturn

/-- There is always a piece. -/
theorem pieces_ne_nil (text : List Char) : pieces text ≠ [] := by
  fun_induction pieces text with
  | case1 => simp
  | case2 => simp
  | case3 => simp
  | case4 c text _ _ ih =>
    obtain ⟨first, rest, hpieces⟩ := List.exists_cons_of_ne_nil ih
    rw [hpieces]
    simp

/-- Without line feeds the pieces are those between carriage returns. -/
theorem pieces_eq_splitOn {text : List Char} (h : '\n' ∉ text) :
    pieces text = text.splitOn '\r' := by
  induction text with
  | nil => rfl
  | cons c text ih =>
    rw [List.mem_cons, not_or] at h
    obtain ⟨hc, htext⟩ := h
    rw [List.splitOn_cons_eq_if_modifyHead, ← ih htext]
    by_cases hreturn : c = '\r'
    · subst hreturn
      rw [if_pos (by simp), pieces_return]
      intro hhead
      exact htext (List.mem_of_mem_head? hhead)
    · rw [if_neg (by simpa using hreturn), pieces_cons (Ne.symm hc) hreturn]

/-- Up to a line feed the pieces are those between carriage returns, but for one that belongs to the
line feed. -/
theorem pieces_append_feed {line : List Char} (h : '\n' ∉ line) (text : List Char) :
    pieces (line ++ '\n' :: text) = (dropReturn line).splitOn '\r' ++ pieces text := by
  induction line with
  | nil => exact pieces_feed text
  | cons c line ih =>
    rw [List.mem_cons, not_or] at h
    obtain ⟨hc, hline⟩ := h
    cases line with
    | nil =>
      by_cases hreturn : c = '\r'
      · subst hreturn
        simp [dropReturn, pieces]
      · rw [List.cons_append, List.nil_append, pieces_cons (Ne.symm hc) hreturn, pieces_feed]
        have hdrop : dropReturn [c] = [c] := by simp [dropReturn, hreturn]
        rw [hdrop, List.splitOn_eq_singleton (by simpa using Ne.symm hreturn)]
        rfl
    | cons d line =>
      have hdrop : dropReturn (c :: d :: line) = c :: dropReturn (d :: line) := by
        unfold dropReturn
        rw [List.getLast?_cons_cons]
        split <;> rfl
      rw [hdrop, List.splitOn_cons_eq_if_modifyHead, List.cons_append]
      by_cases hreturn : c = '\r'
      · subst hreturn
        have hd : d ≠ '\n' := by
          rintro rfl
          exact hline List.mem_cons_self
        rw [if_pos (by simp), pieces_return (by simpa using hd), ih hline]
        rfl
      · rw [if_neg (by simpa using hreturn), pieces_cons (Ne.symm hc) hreturn, ih hline]
        obtain ⟨first, rest, hfirst⟩ :=
          List.exists_cons_of_ne_nil (List.splitOn_ne_nil '\r' (dropReturn (d :: line)))
        rw [hfirst]
        rfl

/-- A text without line feeds is one line up to its carriage returns. -/
theorem lines_eq_splitOn {text : List Char} (h : '\n' ∉ text) (hne : text ≠ []) :
    lines text = text.splitOn '\r' := by
  simp [lines, feedLines, List.splitOn_eq_singleton h, hne]

/-- Up to a line feed the lines are the pieces, too. -/
theorem lines_append_feed {line : List Char} (h : '\n' ∉ line) (text : List Char) :
    lines (line ++ '\n' :: text) = (dropReturn line).splitOn '\r' ++ lines text := by
  have hparts := List.splitOn_ne_nil '\n' text
  unfold lines feedLines
  rw [List.splitOn_append_cons_self_of_not_mem h]
  simp [List.dropLast_cons_of_ne_nil hparts, List.getLast?_cons_of_ne_nil hparts]

/-- A text without line feeds, or the first line feed of one. -/
theorem feed_cases (text : List Char) :
    '\n' ∉ text ∨ ∃ line rest, text = line ++ '\n' :: rest ∧ '\n' ∉ line := by
  by_cases h : '\n' ∈ text
  · obtain ⟨line, rest, htext, hline⟩ := List.eq_append_cons_of_mem h
    exact .inr ⟨line, rest, htext, hline⟩
  · exact .inl h

/-- **Lines are the pieces between breaks**, where a carriage return and the line feed behind it are
one break. Only the empty piece after a line feed at the very end is no line. -/
theorem lines_eq_cutLines (text : List Char) : lines text = cutLines text := by
  induction hlength : text.length using Nat.strongRecOn generalizing text with
  | ind n ih =>
    obtain hnone | ⟨line, rest, rfl, hline⟩ := feed_cases text
    · unfold cutLines
      by_cases hempty : text = []
      · subst hempty
        rfl
      · have hlast : text.getLast? ≠ some '\n' := fun hlast =>
          hnone (List.mem_of_getLast? hlast)
        rw [if_neg (by simp [hempty, hlast]), pieces_eq_splitOn hnone,
          lines_eq_splitOn hnone hempty]
    · have hrest : lines rest = cutLines rest := by
        refine ih rest.length ?_ rest rfl
        rw [← hlength, List.length_append, List.length_cons]
        omega
      rw [lines_append_feed hline, hrest]
      unfold cutLines
      rw [pieces_append_feed hline]
      by_cases hempty : rest = []
      · subst hempty
        simp [pieces]
      · have hlast : (line ++ '\n' :: rest).getLast? = rest.getLast? := by
          rw [List.getLast?_append, List.getLast?_cons_of_ne_nil hempty,
            List.getLast?_eq_some_getLast hempty, Option.some_or]
        rw [hlast]
        by_cases hfeed : rest.getLast? = some '\n'
        · rw [if_pos (.inr hfeed), if_pos (.inr hfeed),
            List.dropLast_append_of_ne_nil (pieces_ne_nil rest)]
        · rw [if_neg (by simp [hempty, hfeed]), if_neg (by simp [hfeed])]

/-! ## Documents of lines -/

/-- A document of lines starts with its first line. -/
theorem toList_unlines_cons (line : String) (lines : List String) :
    (unlines (line :: lines)).toList =
      line.toList ++ '\n' :: (unlines lines).toList := by
  simp [unlines]

/-- A text of lines is cut at its line feeds into these lines, and nothing after the last one. -/
theorem splitOn_unlines {lines : List String} (h : ∀ line ∈ lines, '\n' ∉ line.toList) :
    (unlines lines).toList.splitOn '\n' = lines.map String.toList ++ [[]] := by
  induction lines with
  | nil => rfl
  | cons line lines ih =>
    rw [List.forall_mem_cons] at h
    rw [toList_unlines_cons, List.splitOn_append_cons_self_of_not_mem h.1, ih h.2, List.map_cons,
      List.cons_append]

end KnxExport.Text
