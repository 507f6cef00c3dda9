import KnxExport.Proofs.KindGroup
import KnxExport.Proofs.Lua.Annotations.Comments

/-!
# What the annotations say

The annotations are read line by line. `readLine` says what a line is without a look at any other
line, and `Reader.step` takes the lines one after the other and keeps the references, the blocks
that are complete, and the entries and the documentation of the one that is open. A reference of no
kind, an entry outside of a block, a block without entries, or documentation of nothing is refused.

Main statement: `readOutline_document`, what is read from the annotations of any records. It rests
on three facts: each line is read as what it was written for (`readLine_lines`), the lines of an
outline are read as this outline (`readLines_lines`), and the records are sorted by kind
(`KindGroup.sorted_ofRecords`).
-/

namespace KnxExport.Lua.Annotations

/-! ## Reading a line -/

/-- What a line says. -/
inductive Line where
  | blank
  /-- It opens the alias of all names. -/
  | union
  /-- It adds the names of one kind to the alias of all names. -/
  | reference (kind : Kind)
  /-- It opens the alias of one kind. -/
  | opening (kind : Kind)
  /-- It documents the name to come. -/
  | remark (text : String)
  /-- It adds a name to the alias of its kind. -/
  | member (name : String)
  deriving DecidableEq, Repr

/-- The kind whose names have the given alias. -/
def kindOf? (name : List Char) : Option Kind :=
  Kind.all.find? fun kind => ("GROUP_ADDRESS_NAME_" ++ kind.label).toList == name

/-- Reads what an alias is opened with, after the at sign. -/
def readAlias (text : List Char) : Option Line :=
  if "alias ".toList.isPrefixOf text then
    let name := text.drop "alias ".toList.length
    if name = "GROUP_ADDRESS_NAME".toList then some .union else (kindOf? name).map .opening
  else none

/-- Reads what is added to an alias, after the bar: a literal and nothing else, or the alias of a
kind. -/
def readMember : List Char → Option Line
  | '"' :: text =>
    match readString text with
    | some (name, []) => some (.member (String.ofList name))
    | _ => none
  | name => (kindOf? name).map .reference

/-- Reads a line. -/
def readLine : List Char → Option Line
  | [] => some .blank
  | '-' :: '-' :: '-' :: c :: text =>
    if c = ' ' then some (.remark (String.ofList text))
    else if c = '|' then readMember text
    else if c = '@' then readAlias text
    else none
  | _ => none

/-- A line of documentation is a remark, whatever its text is. -/
theorem readLine_remark (text : String) :
    readLine ("--- " ++ text).toList = some (.remark text) := by
  rw [String.toList_append]
  show some (Line.remark (String.ofList text.toList)) = _
  rw [String.ofList_toList]

/-- A line with a literal is an entry, whatever the text of the literal is. -/
theorem readLine_member (name : String) :
    readLine (memberLine (literal name)).toList = some (.member name) := by
  have hread := readString_escape name.toList []
  have hchars : (memberLine (literal name)).toList =
      '-' :: '-' :: '-' :: '|' :: '"' :: (name.toList.flatMap escapeChar ++ ['"']) := by
    simp [memberLine, literal]
  rw [hchars]
  show readMember ('"' :: (name.toList.flatMap escapeChar ++ ['"'])) = _
  rw [readMember, hread]
  simp only
  rw [String.ofList_toList]

/-- A kind is found by its alias. -/
theorem kindOf?_kindAlias (kind : Kind) : kindOf? (kindAlias kind).toList = some kind := by
  have hname : ∀ k : Kind, (("GROUP_ADDRESS_NAME_" ++ k.label).toList == (kindAlias kind).toList) =
      (k.label == kind.label) := by
    intro k
    have halias : kindAlias kind = "GROUP_ADDRESS_NAME_" ++ kind.label := by
      rw [kindAlias, aliasName]
      rfl
    rw [halias, Bool.eq_iff_iff, beq_iff_eq, beq_iff_eq, String.toList_inj, String.append_right_inj]
  simp only [kindOf?, hname, Kind.find?_label]

/-- A line with the alias of a kind is a reference. -/
theorem readLine_reference (kind : Kind) :
    readLine (memberLine (kindAlias kind)).toList = some (.reference kind) := by
  have hmember : readMember (kindAlias kind).toList =
      (kindOf? (kindAlias kind).toList).map .reference := by
    rw [kindAlias, String.toList_append, String.toList_append]
    rfl
  rw [memberLine, String.toList_append]
  show readMember (kindAlias kind).toList = _
  rw [hmember, kindOf?_kindAlias]
  rfl

/-- A line that opens the alias of a kind is read as such. -/
theorem readLine_opening (kind : Kind) :
    readLine (aliasLine (kindAlias kind)).toList = some (.opening kind) := by
  have hother : (kindAlias kind).toList ≠ "GROUP_ADDRESS_NAME".toList := by
    rw [kindAlias, String.toList_append, String.toList_append]
    simp [aliasName]
  rw [aliasLine, String.toList_append]
  show readAlias ("alias ".toList ++ (kindAlias kind).toList) = _
  rw [readAlias, if_pos (by simp), List.drop_left]
  simp only
  rw [if_neg hother, kindOf?_kindAlias]
  rfl

/-! ## Outlines -/

/-- A name with its documentation, line by line. -/
structure Entry where
  documentation : List String
  name : String
  deriving DecidableEq, Repr

/-- The names of one kind. -/
structure Block where
  kind : Kind
  entries : List Entry
  deriving DecidableEq, Repr

/-- What the annotations as a whole say. -/
structure Outline where
  /-- The kinds that the alias of all names refers to. -/
  references : List Kind
  blocks : List Block
  deriving DecidableEq, Repr

/-- What the lines of an entry say. -/
def Entry.lines (e : Entry) : List Line :=
  e.documentation.map .remark ++ [.member e.name]

/-- What the lines of a block say. -/
def Block.lines (b : Block) : List Line :=
  [.blank, .opening b.kind] ++ b.entries.flatMap Entry.lines

/-- What the lines of an outline say. -/
def Outline.lines (o : Outline) : List Line :=
  .union :: o.references.map .reference ++ o.blocks.flatMap Block.lines

/-! ## Reading the lines of an outline -/

/-- Where a reader of annotations stands. -/
inductive Place where
  /-- Before the first line. -/
  | start
  /-- Among the references. -/
  | references
  /-- Behind a blank line. -/
  | gap
  /-- In a block, with its entries so far and the documentation of the next one. -/
  | block (kind : Kind) (entries : List Entry) (pending : List String)

/-- What has been read of the annotations. -/
structure Reader where
  place : Place := .start
  references : List Kind := []
  /-- The blocks that are complete. -/
  blocks : List Block := []

namespace Reader

/-- Takes one more line. -/
def step (r : Reader) (line : Line) : Option Reader :=
  match r.place, line with
  | .start, .union => some { r with place := .references }
  | .references, .reference kind => some { r with references := r.references ++ [kind] }
  | .references, .blank => some { r with place := .gap }
  | .gap, .opening kind => some { r with place := .block kind [] [] }
  | .block kind entries pending, .remark text =>
    some { r with place := .block kind entries (pending ++ [text]) }
  | .block kind entries pending, .member name =>
    some { r with place := .block kind (entries ++ [⟨pending, name⟩]) [] }
  | .block kind (first :: more) [], .blank =>
    some { r with place := .gap, blocks := r.blocks ++ [⟨kind, first :: more⟩] }
  | _, _ => none

/-- The outline, if the annotations may end here. -/
def finish (r : Reader) : Option Outline :=
  match r.place with
  | .references => some ⟨r.references, r.blocks⟩
  | .block kind (first :: more) [] =>
    some ⟨r.references, r.blocks ++ [⟨kind, first :: more⟩]⟩
  | _ => none

/-- Where the annotations may end, a blank line may follow, and keeps all that has been read. -/
theorem step_blank_of_finish {r : Reader} {o : Outline} (h : r.finish = some o) :
    r.step .blank = some ⟨.gap, o.references, o.blocks⟩ := by
  obtain ⟨place, references, blocks⟩ := r
  cases place with
  | start => cases h
  | references =>
    cases h
    rfl
  | gap => cases h
  | block kind entries pending =>
    cases entries with
    | nil => cases h
    | cons first more =>
      cases pending with
      | nil =>
        cases h
        rfl
      | cons text pending => cases h

section Run

variable {references : List Kind} {blocks : List Block} {kind : Kind} {entries : List Entry}

/-- References are kept in their order. -/
theorem foldlM_references (kinds : List Kind) :
    (kinds.map Line.reference).foldlM step ⟨.references, references, blocks⟩ =
      some ⟨.references, references ++ kinds, blocks⟩ := by
  induction kinds generalizing references with
  | nil => simp
  | cons kind kinds ih =>
    rw [List.map_cons, List.foldlM_cons]
    show (kinds.map Line.reference).foldlM step ⟨.references, references ++ [kind], blocks⟩ = _
    rw [ih, List.append_assoc]
    rfl

/-- Remarks are kept for the next entry. -/
theorem foldlM_remarks (texts : List String) {pending : List String} :
    (texts.map Line.remark).foldlM step ⟨.block kind entries pending, references, blocks⟩ =
      some ⟨.block kind entries (pending ++ texts), references, blocks⟩ := by
  induction texts generalizing pending with
  | nil => simp
  | cons text texts ih =>
    rw [List.map_cons, List.foldlM_cons]
    show (texts.map Line.remark).foldlM step
      ⟨.block kind entries (pending ++ [text]), references, blocks⟩ = _
    rw [ih, List.append_assoc]
    rfl

/-- The lines of entries add these entries to the open block. -/
theorem foldlM_entries (new : List Entry) :
    (new.flatMap Entry.lines).foldlM step ⟨.block kind entries [], references, blocks⟩ =
      some ⟨.block kind (entries ++ new) [], references, blocks⟩ := by
  induction new generalizing entries with
  | nil => simp
  | cons e new ih =>
    have hentry : e.lines.foldlM step ⟨.block kind entries [], references, blocks⟩ =
        some ⟨.block kind (entries ++ [e]) [], references, blocks⟩ := by
      rw [Entry.lines, List.foldlM_append, foldlM_remarks]
      rfl
    rw [List.flatMap_cons, List.foldlM_append, hentry]
    show (new.flatMap Entry.lines).foldlM step
      ⟨.block kind (entries ++ [e]) [], references, blocks⟩ = _
    rw [ih, List.append_assoc]
    rfl

/-- The lines of blocks add these blocks, where the annotations may end before and after them. -/
theorem exists_foldlM_blocks {new : List Block} (hnew : ∀ b ∈ new, b.entries ≠ []) {r : Reader}
    {o : Outline} (h : r.finish = some o) :
    ∃ r', (new.flatMap Block.lines).foldlM step r = some r' ∧
      r'.finish = some ⟨o.references, o.blocks ++ new⟩ := by
  induction new generalizing r o with
  | nil => exact ⟨r, rfl, by rw [h, List.append_nil]⟩
  | cons b new ih =>
    rw [List.forall_mem_cons] at hnew
    obtain ⟨hentries, hnew⟩ := hnew
    have hblock : b.lines.foldlM step r =
        some ⟨.block b.kind b.entries [], o.references, o.blocks⟩ := by
      rw [Block.lines, List.cons_append, List.foldlM_cons, step_blank_of_finish h]
      show (b.entries.flatMap Entry.lines).foldlM step
        ⟨.block b.kind [] [], o.references, o.blocks⟩ = _
      rw [foldlM_entries, List.nil_append]
    have hfinish : finish ⟨.block b.kind b.entries [], o.references, o.blocks⟩ =
        some ⟨o.references, o.blocks ++ [b]⟩ := by
      obtain ⟨kind, _ | ⟨first, more⟩⟩ := b
      · exact absurd rfl hentries
      · rfl
    obtain ⟨r', hrun, hread⟩ := ih hnew hfinish
    refine ⟨r', ?_, ?_⟩
    · rw [List.flatMap_cons, List.foldlM_append, hblock]
      exact hrun
    · rw [hread, List.append_assoc]
      rfl

end Run

end Reader

/-- Reads lines one after the other. -/
def readLines (lines : List Line) : Option Outline :=
  lines.foldlM Reader.step {} >>= Reader.finish

/-- **The lines of an outline are read as this outline**, if none of its blocks is empty. -/
theorem readLines_lines {o : Outline} (h : ∀ b ∈ o.blocks, b.entries ≠ []) :
    readLines o.lines = some o := by
  have hreferences : (o.references.map Line.reference).foldlM Reader.step ⟨.references, [], []⟩ =
      some ⟨.references, o.references, []⟩ := Reader.foldlM_references o.references
  obtain ⟨r, hrun, hread⟩ := Reader.exists_foldlM_blocks h
    (rfl : Reader.finish ⟨.references, o.references, []⟩ = some ⟨o.references, []⟩)
  have hlines : o.lines.foldlM Reader.step {} = some r := by
    rw [Outline.lines, List.cons_append, List.foldlM_cons]
    show (o.references.map Line.reference ++ o.blocks.flatMap Block.lines).foldlM Reader.step
      ⟨.references, [], []⟩ = _
    rw [List.foldlM_append, hreferences]
    exact hrun
  rw [readLines, hlines]
  exact hread

/-! ## Reading the annotations of records -/

/-- The lines of a text, each of which a line feed ends. -/
def feedEnded (text : List Char) : Option (List (List Char)) :=
  let pieces := text.splitOn '\n'
  if pieces.getLast? = some [] then some pieces.dropLast else none

/-- Reads annotations line by line. -/
def readOutline (text : String) : Option Outline :=
  feedEnded text.toList >>= List.mapM readLine >>= readLines

/-- The documentation of a record: the lines of its description, and the flag if its datapoint type
is unknown. -/
def remarks (g : GroupAddress) : List String :=
  (Text.cutLines g.description.toList).map String.ofList ++
    if g.datapoint = .unknown then ["HAS UNKNOWN DPT"] else []

/-- What the annotations say of a record. -/
def Entry.ofRecord (g : GroupAddress) : Entry :=
  ⟨remarks g, g.displayName⟩

/-- What the annotations say of the records of one kind. -/
def Block.ofGroup (group : KindGroup) : Block :=
  ⟨group.kind, group.members.toList.map Entry.ofRecord⟩

/-- What the annotations say of records. -/
def Outline.ofRecords (records : List GroupAddress) : Outline :=
  ⟨(KindGroup.ofRecords records).map KindGroup.kind,
    (KindGroup.ofRecords records).map Block.ofGroup⟩

/-- The documentation is written as comments. -/
theorem documentation_eq_map (g : GroupAddress) :
    documentation g = (remarks g).map ("--- " ++ ·) := by
  unfold documentation remarks comment
  rw [Text.lines_eq_cutLines, List.map_append, List.map_map]
  split <;> rfl

/-- The lines for a record are read as its entry. -/
theorem readLine_entry (g : GroupAddress) :
    (entry g).map (fun line => readLine line.toList) = (Entry.ofRecord g).lines.map some := by
  rw [entry, documentation_eq_map, Entry.lines, List.map_append, List.map_append, List.map_map,
    List.map_map]
  simp only [Function.comp_def, readLine_remark, List.map_cons, List.map_nil, readLine_member,
    Entry.ofRecord]

/-- The lines for a group are read as its block. -/
theorem readLine_block (group : KindGroup) :
    (block group).map (fun line => readLine line.toList) =
      (Block.ofGroup group).lines.map some := by
  simp only [block, Block.lines, Block.ofGroup, List.cons_append, List.nil_append, List.map_cons,
    readLine_opening, List.map_flatMap, readLine_entry, List.flatMap_map]
  rfl

/-- Each line of the document is read as what it was written for. -/
theorem readLine_lines (records : List GroupAddress) :
    (lines records).map (fun line => readLine line.toList) =
      (Outline.ofRecords records).lines.map some := by
  have hunion : readLine (aliasLine aliasName).toList = some .union := by decide
  simp only [lines, Outline.lines, Outline.ofRecords, List.cons_append, List.map_cons, hunion,
    List.map_append, List.map_map, List.map_flatMap, readLine_block, List.flatMap_map,
    Function.comp_def, reference, readLine_reference]

/-- The blocks of records are not empty. -/
theorem entries_ne_nil_of_mem_ofRecords {records : List GroupAddress} {b : Block}
    (h : b ∈ (Outline.ofRecords records).blocks) : b.entries ≠ [] := by
  obtain ⟨group, -, rfl⟩ := List.mem_map.mp h
  simpa [Block.ofGroup] using group.members_ne

/-- The annotations of records are read as what they say of the records. -/
theorem readOutline_document_eq (records : List GroupAddress) :
    readOutline (document records) = some (Outline.ofRecords records) := by
  have hfed : feedEnded (document records).toList = some ((lines records).map String.toList) := by
    rw [feedEnded, splitOn_document]
    simp
  have hmap : ((lines records).map String.toList).mapM readLine =
      some (Outline.ofRecords records).lines :=
    calc ((lines records).map String.toList).mapM readLine
      _ = ((lines records).map fun line => readLine line.toList).mapM id := by
        rw [List.mapM_map, List.mapM_map]
        rfl
      _ = ((Outline.ofRecords records).lines.map some).mapM id := by rw [readLine_lines]
      _ = some (Outline.ofRecords records).lines := by
        rw [List.mapM_map]
        exact (List.mapM_pure (f := id)).trans (by rw [List.map_id]; rfl)
  rw [readOutline, hfed]
  show (((lines records).map String.toList).mapM readLine >>= readLines) = _
  rw [hmap]
  exact readLines_lines fun b hb => entries_ne_nil_of_mem_ofRecords hb

/-- **The annotations lose nothing and sort the records by kind.** Read line by line, they give
references to the kinds that occur, each once and in the order in which they first occur; one block
for each reference, none of them empty; and in the block of a kind the records of that kind, in
their order, with their documentation and their display name. All blocks together hold every record
once. The lines for a record are read as its documentation and its name, whatever texts it holds, so
that none of them is taken for a separator, for the opening of a block or for another entry. -/
theorem readOutline_document (records : List GroupAddress) :
    ∃ outline, readOutline (document records) = some outline ∧
      (lines records).map (fun line => readLine line.toList) = outline.lines.map some ∧
      (∀ kind, kind ∈ outline.references ↔ ∃ g ∈ records, g.kind = kind) ∧
      outline.references.Nodup ∧
      (outline.references.Pairwise fun k l =>
        (records.map GroupAddress.kind).idxOf k < (records.map GroupAddress.kind).idxOf l) ∧
      outline.blocks.map Block.kind = outline.references ∧
      (∀ b ∈ outline.blocks, b.entries ≠ [] ∧
        b.entries = (records.filter fun g => decide (g.kind = b.kind)).map Entry.ofRecord) ∧
      (outline.blocks.flatMap Block.entries).Perm (records.map Entry.ofRecord) ∧
      ∀ g, (entry g).map (fun line => readLine line.toList) =
        ((remarks g).map Line.remark ++ [Line.member g.displayName]).map some := by
  have hsorted := KindGroup.sorted_ofRecords records
  refine ⟨Outline.ofRecords records, readOutline_document_eq records, readLine_lines records, ?_,
    hsorted.nodup, hsorted.ordered, ?_, ?_, ?_, readLine_entry⟩
  · intro kind
    refine (hsorted.mem_kinds kind).trans ?_
    exact List.mem_map
  · rw [Outline.ofRecords, List.map_map]
    rfl
  · intro b hb
    refine ⟨entries_ne_nil_of_mem_ofRecords hb, ?_⟩
    obtain ⟨group, hgroup, rfl⟩ := List.mem_map.mp hb
    rw [Block.ofGroup, hsorted.members group hgroup]
  · have hentries : (Outline.ofRecords records).blocks.flatMap Block.entries =
        ((KindGroup.ofRecords records).flatMap fun group => group.members.toList).map
          Entry.ofRecord := by
      rw [Outline.ofRecords, List.flatMap_map, List.map_flatMap]
      rfl
    rw [hentries]
    exact hsorted.perm.map Entry.ofRecord

end KnxExport.Lua.Annotations
