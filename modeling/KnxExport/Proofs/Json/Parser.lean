import KnxExport.Proofs.Json.Lexer

/-!
# A parser for JSON

`parse` reads a text as one value. The tokens of the text are taken up one after the other, with the
arrays and objects that are still open on a stack. So the parser is a machine that takes one step
for each token, and a value that is nested to any depth needs no recursion.

Main statement: `foldlM_objectTokens`, the tokens of an object with members that are scalars.
-/

namespace KnxExport.Json

/-- An array or object that is open, with what has been read of it. -/
inductive Frame where
  | array (items : List Value)
  /-- The value of the last name is being read. -/
  | object (members : List (String × Value)) (name : String)

/-- What the parser has read, by what it expects. Everything but the innermost array or object is on
the stack. -/
inductive State where
  /-- A value. -/
  | value (frames : List Frame)
  /-- The first item of an array, or its end. -/
  | firstItem (frames : List Frame)
  /-- The first name in an object, or its end. -/
  | firstName (frames : List Frame)
  /-- A further name in an object. -/
  | name (members : List (String × Value)) (frames : List Frame)
  /-- The colon after a name. -/
  | colon (members : List (String × Value)) (name : String) (frames : List Frame)
  /-- What comes after a value: a comma, or the end of what the value is in. -/
  | complete (value : Value) (frames : List Frame)

/-- Begins a value. -/
def begin (frames : List Frame) : Token → Option State
  | .scalar value => some (.complete value frames)
  | .mark '[' => some (.firstItem frames)
  | .mark '\x7b' => some (.firstName frames)
  | .mark _ => none

/-- Takes up a token. -/
def step : State → Token → Option State
  | .value frames, token => begin frames token
  | .firstItem frames, .mark ']' => some (.complete (.array []) frames)
  | .firstItem frames, token => begin (.array [] :: frames) token
  | .firstName frames, .mark '\x7d' => some (.complete (.object []) frames)
  | .firstName frames, .scalar (.string name) => some (.colon [] name frames)
  | .name members frames, .scalar (.string name) => some (.colon members name frames)
  | .colon members name frames, .mark ':' => some (.value (.object members name :: frames))
  | .complete value (.array items :: frames), .mark ',' =>
    some (.value (.array (items ++ [value]) :: frames))
  | .complete value (.array items :: frames), .mark ']' =>
    some (.complete (.array (items ++ [value])) frames)
  | .complete value (.object members name :: frames), .mark ',' =>
    some (.name (members ++ [(name, value)]) frames)
  | .complete value (.object members name :: frames), .mark '\x7d' =>
    some (.complete (.object (members ++ [(name, value)])) frames)
  | _, _ => none

/-- Reads a text as one value. -/
def parse (text : List Char) : Option Value :=
  match (lex text).bind fun tokens => tokens.foldlM step (.value []) with
  | some (.complete value []) => some value
  | _ => none

/-! ## Objects -/

/-- The tokens of a member whose value is a scalar. -/
def memberTokens (member : String × Value) : List Token :=
  [.scalar (.string member.1), .mark ':', .scalar member.2]

/-- The tokens of members, with commas between them. -/
def membersTokens (members : List (String × Value)) : List Token :=
  [Token.mark ','].intercalate (members.map memberTokens)

/-- The tokens of an object with members whose values are scalars. -/
def objectTokens (members : List (String × Value)) : List Token :=
  .mark '\x7b' :: (membersTokens members ++ [.mark '\x7d'])

theorem membersTokens_cons_cons (member next : String × Value) (members : List (String × Value)) :
    membersTokens (member :: next :: members) =
      memberTokens member ++ .mark ',' :: membersTokens (next :: members) := by
  simp [membersTokens, List.intercalate]

/-- The members of an object are read after those that have been read before. -/
theorem foldlM_membersTokens (before : List (String × Value)) (member : String × Value)
    (members : List (String × Value)) (frames : List Frame) :
    (membersTokens (member :: members) ++ [Token.mark '\x7d']).foldlM step (.name before frames) =
      some (.complete (.object (before ++ member :: members)) frames) := by
  induction members generalizing before member with
  | nil => rfl
  | cons next members ih =>
    have hrest := ih (before ++ [member]) next
    rw [List.append_assoc, List.singleton_append] at hrest
    rw [membersTokens_cons_cons, List.append_assoc, List.cons_append, ← hrest]
    rfl

/-- The tokens of an object are read as that object. -/
theorem foldlM_objectTokens (members : List (String × Value)) (frames : List Frame) :
    (objectTokens members).foldlM step (.value frames) =
      some (.complete (.object members) frames) := by
  cases members with
  | nil => rfl
  | cons member members =>
    -- The first name is expected otherwise than the others, but what follows it is the same.
    have hfirst : (objectTokens (member :: members)).foldlM step (.value frames) =
        (membersTokens (member :: members) ++ [Token.mark '\x7d']).foldlM step
          (.name [] frames) := by
      cases members with
      | nil => rfl
      | cons next members =>
        rw [objectTokens, membersTokens_cons_cons]
        rfl
    rw [hfirst]
    exact foldlM_membersTokens [] member members frames

/-! ## Texts of objects -/

/-- A name and a text, as they stand in an object. -/
def memberText (pair : String × String) : String :=
  Listing.jsonString pair.1 ++ ":" ++ pair.2

/-- A text stands for a scalar, under the same name. -/
def IsMember (pair : String × String) (member : String × Value) : Prop :=
  pair.1 = member.1 ∧ IsScalar pair.2.toList member.2

/-- A member is three tokens, whatever mark follows it. -/
theorem lex_memberText {pair : String × String} {member : String × Value}
    (h : IsMember pair member) {c : Char} (hc : isMark c = true) (rest : List Char) :
    lex ((memberText pair).toList ++ c :: rest) =
      (lex (c :: rest)).map (memberTokens member ++ ·) := by
  obtain ⟨hname, hvalue⟩ := h
  have htext : (memberText pair).toList ++ c :: rest =
      (Listing.jsonString pair.1).toList ++ ':' :: (pair.2.toList ++ c :: rest) := by
    simp [memberText]
  rw [htext, isScalar_jsonString pair.1 ':' _ rfl, lex_mark rfl, hvalue c rest hc, hname,
    Option.map_map, Option.map_map]
  rfl

/-- Members are read one after the other. -/
theorem lex_members {pair : String × String} {pairs : List (String × String)}
    {member : String × Value} {members : List (String × Value)} (hfirst : IsMember pair member)
    (hrest : List.Forall₂ IsMember pairs members) {c : Char} (hc : isMark c = true)
    (rest : List Char) :
    lex ((String.intercalate "," ((pair :: pairs).map memberText)).toList ++ c :: rest) =
      (lex (c :: rest)).map (membersTokens (member :: members) ++ ·) := by
  induction hrest generalizing pair member with
  | nil => exact lex_memberText hfirst hc rest
  | @cons next nextMember pairs members hnext _ ih =>
    have htext : (String.intercalate "," ((pair :: next :: pairs).map memberText)).toList ++
          c :: rest =
        (memberText pair).toList ++ ',' ::
          ((String.intercalate "," ((next :: pairs).map memberText)).toList ++ c :: rest) := by
      rw [List.map_cons, List.map_cons, String.intercalate_cons_cons]
      simp
    rw [htext, lex_memberText hfirst rfl, lex_mark rfl, ih hnext, Option.map_map, Option.map_map,
      membersTokens_cons_cons]
    congr 1

/-- A text that has been put together of members is the object with these members. -/
theorem parse_object {pairs : List (String × String)} {members : List (String × Value)}
    (h : List.Forall₂ IsMember pairs members) :
    parse ("\x7b" ++ String.intercalate "," (pairs.map memberText) ++ "\x7d").toList =
      some (.object members) := by
  have htext : ("\x7b" ++ String.intercalate "," (pairs.map memberText) ++ "\x7d").toList =
      '\x7b' :: ((String.intercalate "," (pairs.map memberText)).toList ++ '\x7d' :: []) := by
    simp
  have hlex : lex ("\x7b" ++ String.intercalate "," (pairs.map memberText) ++ "\x7d").toList =
      some (objectTokens members) := by
    rw [htext, lex_mark rfl]
    cases h with
    | nil =>
      have hempty : (String.intercalate "," ([].map memberText)).toList = [] := by simp
      rw [hempty, List.nil_append, lex_mark rfl, lex_nil]
      rfl
    | cons hfirst hrest =>
      rw [lex_members hfirst hrest rfl, lex_mark rfl, lex_nil]
      rfl
  rw [parse, hlex, Option.bind_some, foldlM_objectTokens]

end KnxExport.Json
