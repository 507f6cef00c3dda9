import KnxExport.Proofs.Export.Reexport
import KnxExport.Proofs.Lua.Annotations.Interleaving
import KnxExport.Proofs.Lua.Script

/-!
# Exports with labels in another spelling

Older projects have the floor typed into the labels, newer ones do not. Two exports that differ in
this only describe the same group addresses, so the documents generated from them are the same.
Labels that differ in any other way are told apart by the documents. `Relabelled` relates the rows
of such exports: a row is the same in both, or it describes a group address and differs in its
label.

Main statement: `spellings_of_labels`. It rests on `Name.ofLabel_eq_iff`, on what another label makes
of a row (`TextsFit.relabel`), and on what the documents tell of their records.
-/

namespace KnxExport.Export

/-! ## Rows with other labels -/

/-- The rows are the same, or the first one describes a group address and the second one has the same
texts but for another label, where the labels are related at the address. -/
inductive Relabelled (S : Address → String → String → Prop) : List Csv.Cell → List Csv.Cell → Prop
  | same (cells : List Csv.Cell) : Relabelled S cells cells
  | leaf {cells others : List Csv.Cell} {label other : String} {texts : List String}
      {g : GroupAddress} (hcells : Decoded cells (label :: texts))
      (hothers : Decoded others (other :: texts)) (hleaf : Fits cells (.leaf g))
      (h : S g.address label other) : Relabelled S cells others

section Row

variable {label other : String} {texts : List String} {g : GroupAddress}
  {cells others : List Csv.Cell} {c d : Class}

/-- The label of a row that describes a group address is not that of the header, and gives the name
at the address. -/
theorem TextsFit.name_eq (h : TextsFit (label :: texts) (.leaf g)) :
    label ≠ headerLabel ∧ g.name = Name.ofLabel label g.address := by
  cases h with
  | leaf hheader hparent hparse => exact ⟨hheader, rfl⟩

/-- With another label a row describes the same group address under the name that this label
gives, unless it is the label of the header. -/
theorem TextsFit.relabel (h : TextsFit (label :: texts) (.leaf g)) (hother : other ≠ headerLabel) :
    TextsFit (other :: texts) (.leaf { g with name := Name.ofLabel other g.address }) := by
  cases h with
  | leaf hheader hparent hparse => exact .leaf hother hparent hparse

/-- The texts of a row decide its class. -/
theorem Fits.textsFit (h : Fits cells c) (htexts : Decoded cells texts) : TextsFit texts c := by
  cases h with
  | badUtf8 hbad => exact absurd htexts (hbad.not_decoded texts)
  | texts htexts' hclass =>
    obtain rfl := htexts.unique htexts'
    exact hclass

/-- A mark in front of a label that does not begin with it changes nothing about its row. -/
theorem Fits.of_marked (hc : Fits cells c)
    (h : Relabelled (fun a label longer => Name.Marked a longer label) cells others) :
    Fits others c := by
  cases h with
  | same => exact hc
  | @leaf _ label longer texts g hcells hothers hleaf hmarked =>
    obtain rfl := hc.unique hleaf
    have htexts := hleaf.textsFit hcells
    obtain ⟨hheader, hname⟩ := htexts.name_eq
    have hlonger := Name.text_ofLabel_ne hheader g.address
    rw [← hmarked.eq_text] at hlonger
    have hfits := htexts.relabel hlonger
    rw [Name.ofLabel_eq_iff.mpr (.inr (.inl hmarked)), ← hname] at hfits
    exact .texts hothers hfits

/-- A row with another label describes a group address of the same kind if it describes one at all,
and the two are shown alike only if their labels give the same name. -/
theorem Relabelled.shown_alike
    (h : Relabelled (fun _ _ other => other ≠ headerLabel) cells others)
    (hc : Fits cells c) (hd : Fits others d) :
    c.leaf?.map GroupAddress.kind = d.leaf?.map GroupAddress.kind ∧
      (c.leaf?.map GroupAddress.displayName = d.leaf?.map GroupAddress.displayName →
        Relabelled (fun a label other => Name.ofLabel label a = Name.ofLabel other a)
          cells others) := by
  cases h with
  | same =>
    obtain rfl := hc.unique hd
    exact ⟨rfl, fun _ => .same cells⟩
  | @leaf _ label other texts g hcells hothers hleaf hother =>
    have htexts := hleaf.textsFit hcells
    obtain rfl := hc.unique hleaf
    obtain rfl := hd.unique (.texts hothers (htexts.relabel hother))
    refine ⟨rfl, ?_⟩
    intro hshown
    have hdisplay : g.displayName =
        GroupAddress.displayName { g with name := Name.ofLabel other g.address } :=
      Option.some.inj hshown
    have hname := (GroupAddress.displayName_eq_iff (by rfl)).mp hdisplay
    rw [htexts.name_eq.2, Name.text_ofLabel_inj] at hname
    exact .leaf hcells hothers hleaf hname

end Row

/-! ## All rows -/

section Rows

variable {rows others : List (List Csv.Cell)} {classes news : List Class}

/-- Marks in front of labels that do not begin with them change nothing about the rows. -/
theorem forall₂_fits_of_marked (hrows : List.Forall₂ Fits rows classes)
    (h : List.Forall₂ (Relabelled fun a label longer => Name.Marked a longer label) rows others) :
    List.Forall₂ Fits others classes := by
  induction h generalizing classes with
  | nil => exact hrows
  | cons hrow _ ih =>
    obtain _ | ⟨hc, hrest⟩ := hrows
    exact .cons (hc.of_marked hrow) (ih hrest)

/-- The group addresses of rows with other labels have the same kinds, and are shown alike only if
their labels give the same names. -/
theorem shown_alike_of_forall₂
    (h : List.Forall₂ (Relabelled fun _ _ other => other ≠ headerLabel) rows others)
    (hrows : List.Forall₂ Fits rows classes) (hothers : List.Forall₂ Fits others news) :
    (classes.filterMap Class.leaf?).map GroupAddress.kind =
        (news.filterMap Class.leaf?).map GroupAddress.kind ∧
      ((classes.filterMap Class.leaf?).map GroupAddress.displayName =
          (news.filterMap Class.leaf?).map GroupAddress.displayName →
        List.Forall₂
          (Relabelled fun a label other => Name.ofLabel label a = Name.ofLabel other a)
          rows others) := by
  induction h generalizing classes news with
  | nil =>
    cases hrows
    cases hothers
    exact ⟨rfl, fun _ => .nil⟩
  | cons hrow _ ih =>
    obtain _ | @⟨_, c, _, classes, hc, hrest⟩ := hrows
    obtain _ | @⟨_, d, _, news, hd, hothers⟩ := hothers
    obtain ⟨hkind, hname⟩ := hrow.shown_alike hc hd
    obtain ⟨hkinds, hnames⟩ := ih hrest hothers
    rw [List.filterMap_cons, List.filterMap_cons]
    rcases hleaf : c.leaf? with _ | g
    · rcases hother : d.leaf? with _ | k
      · rw [hleaf, hother] at hname
        exact ⟨hkinds, fun hshown => .cons (hname rfl) (hnames hshown)⟩
      · rw [hleaf, hother] at hkind
        cases hkind
    · rcases hother : d.leaf? with _ | k
      · rw [hleaf, hother] at hkind
        cases hkind
      · rw [hleaf, hother] at hkind hname
        refine ⟨congrArg₂ List.cons (Option.some.inj hkind) hkinds, ?_⟩
        intro hshown
        obtain ⟨hfirst, hlater⟩ := List.cons.inj hshown
        exact .cons (hname (congrArg some hfirst)) (hnames hlater)

end Rows

/-! ## Exports -/

/-- Marks in front of labels that do not begin with them change nothing about an export. -/
theorem ingest_of_marked {input other : List UInt8}
    (h : List.Forall₂ (Relabelled fun a label longer => Name.Marked a longer label)
      (records input) (records other)) :
    ingest other = ingest input := by
  obtain ⟨classes, hfits, hinput⟩ := exists_classes input
  rw [hinput]
  exact resultFrom_of_fits (forall₂_fits_of_marked hfits h) 1

/-- The group addresses of exports that differ in labels have the same kinds, and are shown alike
only if the labels give the same names. -/
theorem shown_alike_of_relabelled {input other : List UInt8}
    {addresses others : List GroupAddress} (haddresses : ingest input = .ok addresses)
    (hothers : ingest other = .ok others)
    (h : List.Forall₂ (Relabelled fun _ _ label => label ≠ headerLabel)
      (records input) (records other)) :
    addresses.map GroupAddress.kind = others.map GroupAddress.kind ∧
      (addresses.map GroupAddress.displayName = others.map GroupAddress.displayName →
        List.Forall₂
          (Relabelled fun a label other => Name.ofLabel label a = Name.ofLabel other a)
          (records input) (records other)) := by
  obtain ⟨classes, hfits, hinput⟩ := exists_classes input
  obtain ⟨news, hnews, hother⟩ := exists_classes other
  rw [hinput, resultOf_eq_ok_iff] at haddresses
  rw [hother, resultOf_eq_ok_iff] at hothers
  rw [haddresses.2, hothers.2]
  exact shown_alike_of_forall₂ h hfits hnews

/-- **A label has two spellings.** Two labels give one name at an address if and only if they are
the same, or one of them is the other with the address's mark in front and the other does not begin
with that mark; and what a name is shown as gives that name again. So marks that are put in front of
the labels of any group addresses which do not begin with them leave the script and the annotations
of an export as they are. Exports whose group addresses differ in any other labels have neither the
same script nor the same annotations. -/
theorem spellings_of_labels :
    (∀ (a : Address) (label other : String),
      Name.ofLabel label a = Name.ofLabel other a ↔
        label = other ∨ Name.Marked a label other ∨ Name.Marked a other label) ∧
    (∀ (a : Address) (label : String),
      Name.ofLabel (Name.ofLabel label a).text a = Name.ofLabel label a) ∧
    (∀ input other addresses, ingest input = .ok addresses →
      List.Forall₂ (Relabelled fun a label longer => Name.Marked a longer label)
        (records input) (records other) →
      ∃ others, ingest other = .ok others ∧
        Lua.Script.document others = Lua.Script.document addresses ∧
        Lua.Annotations.document others = Lua.Annotations.document addresses) ∧
    ∀ input other addresses others, ingest input = .ok addresses → ingest other = .ok others →
      List.Forall₂ (Relabelled fun _ _ label => label ≠ headerLabel)
        (records input) (records other) →
      Lua.Script.document others = Lua.Script.document addresses ∨
        Lua.Annotations.document others = Lua.Annotations.document addresses →
      List.Forall₂
        (Relabelled fun a label other =>
          label = other ∨ Name.Marked a label other ∨ Name.Marked a other label)
        (records input) (records other) := by
  refine ⟨fun a label other => Name.ofLabel_eq_iff, fun a label => Name.ofLabel_text label a,
    ?_, ?_⟩
  · intro input other addresses haddresses hmarked
    have hsame := ingest_of_marked hmarked
    exact ⟨addresses, hsame.trans haddresses, rfl, rfl⟩
  · intro input other addresses others haddresses hothers hlabels hdocument
    obtain ⟨hkinds, hspellings⟩ := shown_alike_of_relabelled haddresses hothers hlabels
    have hshown : addresses.map GroupAddress.displayName =
        others.map GroupAddress.displayName := by
      rcases hdocument with hscript | hannotations
      · have harguments := Lua.Script.map_arguments_eq_of_document_eq hscript
        have hnames := congrArg (List.map Prod.fst) harguments
        rw [List.map_map, List.map_map] at hnames
        exact hnames.symm
      · exact (Lua.Annotations.displayNames_eq_of_document hannotations hkinds.symm).symm
    have hsame := hspellings hshown
    simp only [Name.ofLabel_eq_iff] at hsame
    exact hsame

/-- An export with one label in the short spelling, one that begins with its mark twice and a scene,
which has no mark. It gives the same documents with the mark in front of the first label; the second
label stays another one than it would be with its mark once. -/
theorem spellings_of_labels_mixed :
    ingest (Utf8.encode "Light A,1/0/1,,,,1-001\nLF LF Hall,1/0/4,,,,\nLF x,0/2/5,,,,\n") =
        .ok [⟨⟨some .lower, "Light A"⟩, "", .switch, ⟨1, 0, 1⟩, .known 1⟩,
          ⟨⟨some .lower, "LF Hall"⟩, "", .switch, ⟨1, 0, 4⟩, .unknown⟩,
          ⟨⟨none, "LF x"⟩, "", .scene, ⟨0, 2, 5⟩, .unknown⟩] ∧
    (∃ others,
      ingest (Utf8.encode
          "LF Light A,1/0/1,,,,1-001\n\"LF LF Hall\",1/0/4,,,,\nLF x,0/2/5,,,,\n") = .ok others ∧
        Lua.Script.document others = Lua.Script.document
          [⟨⟨some .lower, "Light A"⟩, "", .switch, ⟨1, 0, 1⟩, .known 1⟩,
            ⟨⟨some .lower, "LF Hall"⟩, "", .switch, ⟨1, 0, 4⟩, .unknown⟩,
            ⟨⟨none, "LF x"⟩, "", .scene, ⟨0, 2, 5⟩, .unknown⟩] ∧
        Lua.Annotations.document others = Lua.Annotations.document
          [⟨⟨some .lower, "Light A"⟩, "", .switch, ⟨1, 0, 1⟩, .known 1⟩,
            ⟨⟨some .lower, "LF Hall"⟩, "", .switch, ⟨1, 0, 4⟩, .unknown⟩,
            ⟨⟨none, "LF x"⟩, "", .scene, ⟨0, 2, 5⟩, .unknown⟩]) ∧
    Name.ofLabel "LF LF Hall" ⟨1, 0, 4⟩ ≠ Name.ofLabel "Hall" ⟨1, 0, 4⟩ := by
  obtain ⟨hnames, -, hmarked, -⟩ := spellings_of_labels
  have hread : ingest (Utf8.encode
      "Light A,1/0/1,,,,1-001\nLF LF Hall,1/0/4,,,,\nLF x,0/2/5,,,,\n") =
      .ok [⟨⟨some .lower, "Light A"⟩, "", .switch, ⟨1, 0, 1⟩, .known 1⟩,
        ⟨⟨some .lower, "LF Hall"⟩, "", .switch, ⟨1, 0, 4⟩, .unknown⟩,
        ⟨⟨none, "LF x"⟩, "", .scene, ⟨0, 2, 5⟩, .unknown⟩] := by
    show resultFrom 1 (records _) = _
    rw [records_eq_table]
    rfl
  have hrecords : records (Utf8.encode
      "Light A,1/0/1,,,,1-001\nLF LF Hall,1/0/4,,,,\nLF x,0/2/5,,,,\n") =
      [["Light A", "1/0/1", "", "", "", "1-001"].map Utf8.encode,
        ["LF LF Hall", "1/0/4", "", "", "", ""].map Utf8.encode,
        ["LF x", "0/2/5", "", "", "", ""].map Utf8.encode] := by
    rw [records_eq_table]
    decide
  have hothers : records (Utf8.encode
      "LF Light A,1/0/1,,,,1-001\n\"LF LF Hall\",1/0/4,,,,\nLF x,0/2/5,,,,\n") =
      [["LF Light A", "1/0/1", "", "", "", "1-001"].map Utf8.encode,
        ["LF LF Hall", "1/0/4", "", "", "", ""].map Utf8.encode,
        ["LF x", "0/2/5", "", "", "", ""].map Utf8.encode] := by
    rw [records_eq_table]
    decide
  have hlabel : Name.Marked ⟨1, 0, 1⟩ "LF Light A" "Light A" := by
    refine ⟨by decide, by decide⟩
  have hleaf : TextsFit ["Light A", "1/0/1", "", "", "", "1-001"]
      (.leaf ⟨⟨some .lower, "Light A"⟩, "", .switch, ⟨1, 0, 1⟩, .known 1⟩) :=
    @TextsFit.leaf "Light A" "1/0/1" "" "" "" "1-001" [] ⟨1, 0, 1⟩ (by decide) (by decide) rfl
  refine ⟨hread, hmarked _ _ _ hread ?_, ?_⟩
  · rw [hrecords, hothers]
    refine .cons ?_ (.cons (.same _) (.cons (.same _) .nil))
    exact .leaf (decoded_map_encode _) (decoded_map_encode _)
      (.texts (decoded_map_encode _) hleaf) hlabel
  · rw [Ne, hnames]
    decide

end KnxExport.Export
