import Mathlib.Algebra.BigOperators.Group.List.Basic
import KnxExport.Proofs.KindGroup
import KnxExport.Proofs.Lua.Annotations.Comments

/-!
# Marks that readers find in the annotations

Tools look for marks in comments: an at sign begins a directive, a bar begins a member of the alias
above. The annotations have their marks directly behind the three dashes, and a space in front of
the text of a description. For a tool that ignores blanks in front of a mark this space makes no
difference, so it takes lines of descriptions for marks if they begin like one, and only those.

Main statement: `read_document`, which marks such a tool finds. It rests on `readLine_remark`, what
it takes a line of a description for.
-/

namespace KnxExport.Lua.Annotations

/-! ## Reading marks -/

/-- What a line of the annotations tells a tool. -/
inductive Mark where
  | directive (text : List Char)
  | member (text : List Char)
  deriving DecidableEq, Repr

namespace Mark

/-- The mark as it is written. -/
def chars : Mark → List Char
  | directive text => '@' :: text
  | member text => '|' :: text

/-- The mark that a text is, if it is one. -/
def of? : List Char → Option Mark
  | '@' :: text => some (directive text)
  | '|' :: text => some (member text)
  | _ => none

/-- A text is a mark if it is written as one. -/
theorem of?_eq_some_iff {text : List Char} {mark : Mark} :
    of? text = some mark ↔ text = mark.chars := by
  constructor
  · intro h
    unfold of? at h
    split at h
    · cases h
      rfl
    · cases h
      rfl
    · cases h
  · rintro rfl
    cases mark <;> rfl

/-- A text is no mark if neither sign comes first. -/
theorem of?_eq_none_iff {text : List Char} :
    of? text = none ↔ ∀ c ∈ text.head?, c ≠ '@' ∧ c ≠ '|' := by
  cases text with
  | nil => simp [of?]
  | cons c text =>
    simp only [List.head?_cons, Option.mem_some_iff, forall_eq']
    constructor
    · intro h
      constructor
      · rintro rfl
        cases h
      · rintro rfl
        cases h
    · rintro ⟨hat, hbar⟩
      unfold of?
      split
      · next heq => exact absurd (List.cons.inj heq).1 hat
      · next heq => exact absurd (List.cons.inj heq).1 hbar
      · rfl

end Mark

/-- A reader that ignores blanks in front of a mark. -/
structure MarkReader where
  /-- What the reader takes for blanks. -/
  blank : Char → Bool
  blank_space : blank ' ' = true
  at_not_blank : blank '@' = false
  bar_not_blank : blank '|' = false

namespace MarkReader

variable (r : MarkReader)

/-- The mark in a comment. -/
def mark? (text : List Char) : Option Mark :=
  Mark.of? (text.dropWhile r.blank)

/-- The mark in a line. -/
def readLine : List Char → Option Mark
  | '-' :: '-' :: '-' :: text => r.mark? text
  | _ => none

/-- The marks in a document, line by line. -/
def read (text : String) : List Mark :=
  (text.toList.splitOn '\n').filterMap r.readLine

/-- The marks that the lines of a description are taken for. -/
def strays (g : GroupAddress) : List Mark :=
  (Text.cutLines g.description.toList).filterMap r.mark?

end MarkReader

/-- The marks of the alias of all names, of the alias of each kind, and of the entry of each record,
with the given marks in front of it. Kinds come in the order in which they first occur. -/
def layout (extra : GroupAddress → List Mark) (records : List GroupAddress) : List Mark :=
  let kinds := (records.map GroupAddress.kind).eraseDups
  .directive "alias GROUP_ADDRESS_NAME".toList ::
      kinds.map (fun k => .member ("GROUP_ADDRESS_NAME_" ++ k.label).toList) ++
    kinds.flatMap fun k =>
      .directive ("alias GROUP_ADDRESS_NAME_" ++ k.label).toList ::
        (records.filter fun g => decide (g.kind = k)).flatMap fun g =>
          extra g ++ [.member (literal g.displayName).toList]

/-- The marks that are written on purpose. -/
def intended (records : List GroupAddress) : List Mark :=
  layout (fun _ => []) records

/-! ## The lines of the annotations -/

namespace MarkReader

variable (r : MarkReader)

/-- The space in front of a line of a description does not keep it from being read. -/
theorem readLine_remark (line : List Char) :
    r.readLine ("--- " ++ String.ofList line).toList = r.mark? line := by
  have hchars : ("--- " ++ String.ofList line).toList = '-' :: '-' :: '-' :: ' ' :: line := by
    simp
  rw [hchars]
  show Mark.of? ((' ' :: line).dropWhile r.blank) = _
  rw [List.dropWhile_cons_of_pos r.blank_space]
  rfl

/-- A line with an alias is a directive. -/
theorem readLine_aliasLine (name : String) :
    r.readLine (aliasLine name).toList = some (.directive ("alias " ++ name).toList) := by
  rw [aliasLine, String.toList_append, String.toList_append]
  show Mark.of? (('@' :: ("alias ".toList ++ name.toList)).dropWhile r.blank) = _
  rw [List.dropWhile_cons_of_neg (Bool.eq_false_iff.mp r.at_not_blank)]
  rfl

/-- A line with a member is one. -/
theorem readLine_memberLine (member : String) :
    r.readLine (memberLine member).toList = some (.member member.toList) := by
  rw [memberLine, String.toList_append]
  show Mark.of? (('|' :: member.toList).dropWhile r.blank) = _
  rw [List.dropWhile_cons_of_neg (Bool.eq_false_iff.mp r.bar_not_blank)]
  rfl

/-- The flag of a record is no mark: there is no sign in it. -/
theorem readLine_unknownFlag : r.readLine unknownFlag.toList = none := by
  show Mark.of? (" HAS UNKNOWN DPT".toList.dropWhile r.blank) = none
  rw [Mark.of?_eq_none_iff]
  intro c hc
  have hmem : c ∈ " HAS UNKNOWN DPT".toList :=
    List.dropWhile_subset _ (List.mem_of_mem_head? hc)
  have hplain : (" HAS UNKNOWN DPT".toList.all fun d => d != '@' && d != '|') = true := by decide
  simpa using List.all_eq_true.mp hplain c hmem

/-- The marks in the lines for a record. -/
theorem filterMap_entry (g : GroupAddress) :
    (entry g).filterMap (fun line => r.readLine line.toList) =
      r.strays g ++ [.member (literal g.displayName).toList] := by
  have hflag : (if g.datapoint = .unknown then [unknownFlag] else []).filterMap
      (fun line => r.readLine line.toList) = [] := by
    split
    · simp only [List.filterMap_cons, readLine_unknownFlag, List.filterMap_nil]
    · rfl
  rw [entry, documentation, comment, Text.lines_eq_cutLines, List.filterMap_append,
    List.filterMap_append, hflag, List.append_nil, List.filterMap_map]
  simp only [Function.comp_def, readLine_remark, List.filterMap_cons, readLine_memberLine,
    List.filterMap_nil]
  rfl

/-- The marks in the lines for the records of one kind. -/
theorem filterMap_block (group : KindGroup) :
    (block group).filterMap (fun line => r.readLine line.toList) =
      .directive ("alias GROUP_ADDRESS_NAME_" ++ group.kind.label).toList ::
        group.members.toList.flatMap fun g =>
          r.strays g ++ [.member (literal g.displayName).toList] := by
  have hempty : r.readLine "".toList = none := rfl
  have halias : "alias " ++ kindAlias group.kind =
      "alias GROUP_ADDRESS_NAME_" ++ group.kind.label := by
    rw [kindAlias, ← String.append_assoc]
    rfl
  simp only [block, List.cons_append, List.nil_append, List.filterMap_cons, hempty,
    readLine_aliasLine, halias, List.filterMap_flatMap, filterMap_entry]

/-- The marks in the annotations, the strays of each record in front of its entry. -/
theorem read_document_eq (records : List GroupAddress) :
    r.read (document records) = layout r.strays records := by
  have hunion : r.readLine (aliasLine aliasName).toList =
      some (.directive "alias GROUP_ADDRESS_NAME".toList) := r.readLine_aliasLine aliasName
  have hreference : ∀ group : KindGroup, r.readLine (reference group).toList =
      some (.member ("GROUP_ADDRESS_NAME_" ++ group.kind.label).toList) := by
    intro group
    exact r.readLine_memberLine (kindAlias group.kind)
  have hblocks := congrArg (List.flatMap fun part : Kind × List GroupAddress =>
      Mark.directive ("alias GROUP_ADDRESS_NAME_" ++ part.1.label).toList ::
        part.2.flatMap fun g => r.strays g ++ [.member (literal g.displayName).toList])
    (KindGroup.map_parts_ofRecords records)
  rw [List.flatMap_map, List.flatMap_map] at hblocks
  rw [read, splitOn_document, List.filterMap_append, List.filterMap_map]
  simp only [lines, List.cons_append, Function.comp_def, List.filterMap_cons, hunion,
    List.filterMap_append, List.filterMap_map, hreference, List.filterMap_flatMap, filterMap_block]
  rw [hblocks, List.filterMap_eq_map', layout, ← KindGroup.map_kind_ofRecords, List.map_map]
  exact congrArg _ (List.append_nil _)

end MarkReader

/-! ## Annotations without strays -/

section Layout

variable {extra : GroupAddress → List Mark} {records : List GroupAddress}

/-- What is read on top of the marks that are written on purpose. -/
theorem length_layout :
    (layout extra records).length = (intended records).length +
      ((records.map GroupAddress.kind).eraseDups.flatMap fun k =>
        (records.filter fun g => decide (g.kind = k)).flatMap extra).length := by
  simp only [layout, intended, List.cons_append, List.length_cons, List.length_append,
    List.length_map, List.length_flatMap, List.sum_map_add, List.nil_append, List.length_nil,
    Nat.zero_add]
  omega

/-- Only the marks that are written on purpose are read if nothing is read in front of an entry. -/
theorem layout_eq_intended_iff :
    layout extra records = intended records ↔ ∀ g ∈ records, extra g = [] := by
  constructor
  · intro h
    have hlength := congrArg List.length h
    rw [length_layout, Nat.add_eq_left, List.length_eq_zero_iff, List.flatMap_eq_nil_iff] at hlength
    intro g hg
    have hkind := hlength g.kind (List.mem_eraseDups.mpr (List.mem_map_of_mem hg))
    rw [List.flatMap_eq_nil_iff] at hkind
    exact hkind g (List.mem_filter.mpr ⟨hg, decide_eq_true rfl⟩)
  · intro h
    unfold intended layout
    have hkind : ∀ k, ((records.filter fun g => decide (g.kind = k)).flatMap fun g =>
        extra g ++ [.member (literal g.displayName).toList]) =
        (records.filter fun g => decide (g.kind = k)).flatMap fun g =>
          [] ++ [.member (literal g.displayName).toList] := by
      intro k
      apply List.flatMap_congr
      intro g hg
      rw [h g (List.mem_of_mem_filter hg)]
    simp only [hkind]

end Layout

/-- **What a tool that ignores blanks in front of marks finds in the annotations.** It finds the
alias of all names, a reference for each kind, the alias of each kind, and the entry of each record,
and besides, in front of the entry of a record, the lines of the description that are written like a
mark behind their blanks: an at sign or a bar comes first. It takes no other line for a mark,
whatever the descriptions are, so it finds what is written on purpose and nothing else if, and only
if, no line of a description begins in this way. -/
theorem read_document (r : MarkReader) (records : List GroupAddress) :
    r.read (document records) = layout r.strays records ∧
      (∀ g mark, mark ∈ r.strays g ↔
        ∃ line ∈ Text.cutLines g.description.toList, line.dropWhile r.blank = mark.chars) ∧
      (r.read (document records) = intended records ↔
        ∀ g ∈ records, ∀ line ∈ Text.cutLines g.description.toList,
          ∀ c ∈ (line.dropWhile r.blank).head?, c ≠ '@' ∧ c ≠ '|') := by
  refine ⟨r.read_document_eq records, ?_, ?_⟩
  · intro g mark
    rw [MarkReader.strays, List.mem_filterMap]
    simp only [MarkReader.mark?, Mark.of?_eq_some_iff]
  · rw [r.read_document_eq records, layout_eq_intended_iff]
    simp only [MarkReader.strays, List.filterMap_eq_nil_iff, MarkReader.mark?, Mark.of?_eq_none_iff]

/-- A tool that ignores spaces. -/
def lenient : MarkReader where
  blank c := c == ' '
  blank_space := rfl
  at_not_blank := rfl
  bar_not_blank := rfl

/-- A light whose description is written like a directive and a member. -/
def hinted : GroupAddress where
  name := .ofLabel "Light A" ⟨1, 0, 1⟩
  description := "@deprecated\n| \"Hall\""
  kind := .switch
  address := ⟨1, 0, 1⟩
  datapoint := .known 1

/-- A description can add a directive, and a member to the alias of its kind. -/
theorem read_document_hinted :
    lenient.read (document [hinted]) =
        [.directive "alias GROUP_ADDRESS_NAME".toList, .member "GROUP_ADDRESS_NAME_Switch".toList,
          .directive "alias GROUP_ADDRESS_NAME_Switch".toList, .directive "deprecated".toList,
          .member " \"Hall\"".toList, .member "\"Switch LF Light A\"".toList] ∧
      lenient.read (document [hinted]) ≠ intended [hinted] := by
  rw [lenient.read_document_eq]
  decide +kernel

end KnxExport.Lua.Annotations
