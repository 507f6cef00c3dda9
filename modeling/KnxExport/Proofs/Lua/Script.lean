import KnxExport.Lua.Script
import KnxExport.Proofs.Lua.Lexer

/-!
# The tokens of the script

However the names of the records are written, the script has the tokens of one function that
returns one call for each record, and the arguments of the calls are the display names, the
addresses and the tags of the records, character for character.

Main statement: `tokens_document`. It rests on `lex_entry`, one line of the table, and on
`lex_entries`, all of them, by induction over the records.
-/

namespace KnxExport.Lua.Script

open Text (toList_unlines_cons)

/-- The tokens before the first call. -/
def opening : List Token :=
  [.word "function", .word "CreateGroupAddresses", .mark '(', .mark ')', .word "return",
    .mark '\x7b']

/-- What a call is given: the display name, the address and the tag of a record. -/
def arguments (g : GroupAddress) : String × String × String :=
  (g.displayName, g.address.text, g.datapoint.tag)

/-- The tokens of a call, with the comma after it. -/
def callTokens : String × String × String → List Token
  | (name, address, tag) =>
    [.word "GroupAddress", .mark '(', .text name, .mark ',', .text address, .mark ',', .text tag,
      .mark ')', .mark ',']

/-- The tokens after the last call. -/
def closing : List Token :=
  [.mark '\x7d', .word "end"]

/-- The line of a record has the tokens of its call. -/
theorem lex_entry (g : GroupAddress) (rest : List Char) :
    lex ((entry g).toList ++ '\n' :: rest) =
      (lex rest).map (callTokens (arguments g) ++ ·) := by
  have hopen : ∀ more, lex ("\t\tGroupAddress(".toList ++ more) =
      (lex more).map ([.word "GroupAddress", .mark '('] ++ ·) := by
    intro more
    change lex ('\t' :: '\t' :: ("GroupAddress".toList ++ '(' :: more)) = _
    rw [lex_space (by decide), lex_space (by decide), lex_word (by decide) (by simp; rfl),
      lex_mark (by decide), Option.map_map]
    rfl
  have hcomma : ∀ more, lex (", ".toList ++ more) = (lex more).map (.mark ',' :: ·) := by
    intro more
    change lex (',' :: ' ' :: more) = _
    rw [lex_mark (by decide), lex_space (by decide)]
  have hclose : ∀ more, lex ("),".toList ++ '\n' :: more) =
      (lex more).map ([.mark ')', .mark ','] ++ ·) := by
    intro more
    change lex (')' :: ',' :: '\n' :: more) = _
    rw [lex_mark (by decide), lex_mark (by decide), lex_space (by decide), Option.map_map]
    rfl
  unfold entry
  simp only [String.toList_append, List.append_assoc]
  rw [hopen, lex_literal, hcomma, lex_literal, hcomma, lex_literal, hclose]
  simp [callTokens, arguments, Function.comp_def]

/-- The lines of the records have the tokens of their calls, whatever follows them. -/
theorem lex_entries (records : List GroupAddress) (lines : List String) :
    lex (Text.unlines (records.map entry ++ lines)).toList =
      (lex (Text.unlines lines).toList).map
        (records.flatMap (fun g => callTokens (arguments g)) ++ ·) := by
  induction records with
  | nil => simp
  | cons g records ih =>
    rw [List.map_cons, List.cons_append, toList_unlines_cons, lex_entry, ih, List.flatMap_cons]
    simp [Function.comp_def]

/-- A line depends on nothing but the arguments of its call. -/
theorem map_entry_eq (records : List GroupAddress) :
    records.map entry = (records.map arguments).map fun (name, address, tag) =>
      "\t\tGroupAddress(" ++ literal name ++ ", " ++ literal address ++ ", " ++ literal tag ++
        ")," := by
  rw [List.map_map]
  rfl

/-- The lines before the records open the function and its table. -/
theorem lex_opening (lines : List String) :
    lex (Text.unlines (["---@return table<number,GroupAddress>",
      "function CreateGroupAddresses()", "\treturn \x7b"] ++ lines)).toList =
      (lex (Text.unlines lines).toList).map (opening ++ ·) := by
  have hcomment : ∀ more,
      lex ("---@return table<number,GroupAddress>".toList ++ '\n' :: more) = lex more := by
    intro more
    change lex ('-' :: '-' :: ("-@return table<number,GroupAddress>".toList ++ '\n' :: more)) = _
    exact lex_comment (by decide) (by decide) more
  have hfunction : ∀ more, lex ("function CreateGroupAddresses()".toList ++ '\n' :: more) =
      (lex more).map
        ([.word "function", .word "CreateGroupAddresses", .mark '(', .mark ')'] ++ ·) := by
    intro more
    change lex ("function".toList ++
      ' ' :: ("CreateGroupAddresses".toList ++ '(' :: ')' :: '\n' :: more)) = _
    rw [lex_word (by decide) (by simp; rfl), lex_space (by decide),
      lex_word (by decide) (by simp; rfl), lex_mark (by decide), lex_mark (by decide),
      lex_space (by decide)]
    simp [Function.comp_def]
  have hreturn : ∀ more, lex ("\treturn \x7b".toList ++ '\n' :: more) =
      (lex more).map ([.word "return", .mark '\x7b'] ++ ·) := by
    intro more
    change lex ('\t' :: ("return".toList ++ ' ' :: '\x7b' :: '\n' :: more)) = _
    rw [lex_space (by decide), lex_word (by decide) (by simp; rfl), lex_space (by decide),
      lex_mark (by decide), lex_space (by decide)]
    simp [Function.comp_def]
  simp only [List.cons_append, List.nil_append]
  rw [toList_unlines_cons, hcomment, toList_unlines_cons, hfunction, toList_unlines_cons, hreturn]
  simp [opening, Function.comp_def]

/-- The lines after the records close the table and the function. -/
theorem lex_closing : lex (Text.unlines ["\t\x7d", "end"]).toList = some closing := by
  change lex ('\t' :: '\x7d' :: '\n' :: ("end".toList ++ ['\n'])) = _
  rw [lex_space (by decide), lex_mark (by decide), lex_space (by decide),
    lex_word (by decide) (by simp; rfl), lex_space (by decide), lex_nil]
  rfl

/-- The tokens of a list of calls tell their arguments. -/
theorem map_arguments_eq_of_flatMap_eq (records others : List GroupAddress)
    (h : records.flatMap (fun g => callTokens (arguments g)) ++ closing =
      others.flatMap (fun g => callTokens (arguments g)) ++ closing) :
    records.map arguments = others.map arguments := by
  induction records generalizing others with
  | nil =>
    cases others with
    | nil => rfl
    | cons g others => simp [callTokens, closing] at h
  | cons g records ih =>
    cases others with
    | nil => simp [callTokens, closing] at h
    | cons g' others =>
      simp only [List.flatMap_cons, callTokens, List.cons_append, List.nil_append, List.cons.injEq,
        Token.text.injEq, true_and] at h
      obtain ⟨hname, haddress, htag, hrest⟩ := h
      have hhead : arguments g = arguments g' := Prod.ext hname (Prod.ext haddress htag)
      rw [List.map_cons, List.map_cons, hhead, ih others hrest]

/-- The script tells the arguments of its calls. -/
theorem map_arguments_eq_of_document_eq {records others : List GroupAddress}
    (h : document records = document others) : records.map arguments = others.map arguments := by
  have hlex : lex (document records).toList = lex (document others).toList := by rw [h]
  unfold document lines at hlex
  rw [List.append_assoc, List.append_assoc, lex_opening, lex_opening, lex_entries, lex_entries,
    lex_closing] at hlex
  apply map_arguments_eq_of_flatMap_eq
  simpa using hlex

/-- **The script says what the records say.** It has the tokens of the function, of one call for
each record in their order, and of the end, and the values of the strings in a call are the display
name, the address and the tag. So no text of a record adds, removes or alters a token, and two lists
of records have the same script only if their calls have the same arguments, one after the other. -/
theorem tokens_document (records : List GroupAddress) :
    tokens (document records) =
        some (opening ++ records.flatMap (fun g => callTokens (arguments g)) ++ closing) ∧
      ∀ others, document others = document records ↔
        others.map arguments = records.map arguments := by
  have htokens : ∀ records, tokens (document records) =
      some (opening ++ records.flatMap (fun g => callTokens (arguments g)) ++ closing) := by
    intro records
    unfold tokens document lines
    rw [List.append_assoc, lex_opening, lex_entries, lex_closing]
    simp
  refine ⟨htokens records, ?_⟩
  intro others
  constructor
  · intro hsame
    have hcalls := htokens others
    rw [hsame, htokens records, Option.some.injEq, List.append_assoc, List.append_assoc,
      List.append_cancel_left_eq] at hcalls
    exact (map_arguments_eq_of_flatMap_eq records others hcalls).symm
  · intro hsame
    unfold document lines
    rw [map_entry_eq others, map_entry_eq records, hsame]

end KnxExport.Lua.Script
