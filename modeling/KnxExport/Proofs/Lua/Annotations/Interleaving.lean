import KnxExport.Proofs.Lua.Annotations.Outline

/-!
# Records of different kinds in another order

The annotations list the records kind by kind, so it is of no importance how records of different
kinds are mixed in the input: only the order in which the kinds first occur counts, and the order of
the records of one kind. An exchange of two records next to each other, of different kinds, shows in
the annotations only if neither kind occurs before.

Main statement: `document_of_interleavings`. The first part rests on what the groups depend on
(`KindGroup.ofRecords_eq_of_alike`), the second one also on reading the annotations back
(`readOutline_document_eq`).
-/

namespace KnxExport.Lua.Annotations

/-! ## What the annotations depend on and what they tell -/

section Alike

variable {records others : List GroupAddress}

/-- Records with the same groups have the same annotations. -/
theorem document_eq_of_groups
    (h : KindGroup.ofRecords records = KindGroup.ofRecords others) :
    document records = document others := by
  unfold document lines
  rw [h]

/-- The annotations show in which order the kinds first occur. -/
theorem kinds_eq_of_document (h : document records = document others) :
    (records.map GroupAddress.kind).eraseDups = (others.map GroupAddress.kind).eraseDups := by
  have hread := readOutline_document_eq records
  rw [h, readOutline_document_eq] at hread
  have hreferences := congrArg Outline.references (Option.some.inj hread)
  rw [← KindGroup.map_kind_ofRecords, ← KindGroup.map_kind_ofRecords]
  exact hreferences.symm

/-- The blocks of records are, for each kind in the order in which they first occur, the entries of
the records of that kind. -/
theorem blocks_ofRecords (records : List GroupAddress) :
    (Outline.ofRecords records).blocks =
      (records.map GroupAddress.kind).eraseDups.map fun k =>
        ⟨k, (records.filter fun g => decide (g.kind = k)).map Entry.ofRecord⟩ := by
  have hparts := congrArg
    (List.map fun part : Kind × List GroupAddress => Block.mk part.1 (part.2.map Entry.ofRecord))
    (KindGroup.map_parts_ofRecords records)
  rw [List.map_map, List.map_map] at hparts
  exact hparts

/-- Records of the same kinds one after the other say the same of each if they do so of those of
each kind. -/
theorem map_eq_of_forall_filter {α : Type} {f : GroupAddress → α}
    (hkinds : records.map GroupAddress.kind = others.map GroupAddress.kind)
    (h : ∀ k, (records.filter fun g => decide (g.kind = k)).map f =
      (others.filter fun g => decide (g.kind = k)).map f) :
    records.map f = others.map f := by
  induction records generalizing others with
  | nil =>
    obtain rfl : others = [] := by simpa using hkinds.symm
    rfl
  | cons g records ih =>
    rcases others with _ | ⟨g', others⟩
    · cases hkinds
    · obtain ⟨hkind, hkinds⟩ := List.cons.inj hkinds
      have hhead := h g.kind
      rw [List.filter_cons_of_pos (by simp), List.filter_cons_of_pos (by simp [hkind])] at hhead
      obtain ⟨hsame, hrest⟩ := List.cons.inj hhead
      rw [List.map_cons, List.map_cons, hsame]
      refine congrArg (f g' :: ·) (ih hkinds ?_)
      intro k
      by_cases hk : g.kind = k
      · rw [← hk]
        exact hrest
      · have hother := h k
        rwa [List.filter_cons_of_neg (by simpa using hk),
          List.filter_cons_of_neg (by simpa [← hkind] using hk)] at hother

/-- The annotations tell the display names of records whose kinds are known. -/
theorem displayNames_eq_of_document (h : document records = document others)
    (hkinds : records.map GroupAddress.kind = others.map GroupAddress.kind) :
    records.map GroupAddress.displayName = others.map GroupAddress.displayName := by
  have hread := readOutline_document_eq records
  rw [h, readOutline_document_eq] at hread
  have hblocks := congrArg Outline.blocks (Option.some.inj hread)
  rw [blocks_ofRecords, blocks_ofRecords, hkinds, List.map_inj_left] at hblocks
  have hentries : records.map Entry.ofRecord = others.map Entry.ofRecord := by
    apply map_eq_of_forall_filter hkinds
    intro k
    by_cases hk : k ∈ others.map GroupAddress.kind
    · have hblock := hblocks k (List.mem_eraseDups.mpr hk)
      exact (congrArg Block.entries hblock).symm
    · -- Neither list has a record of this kind.
      have hnone : ∀ list : List GroupAddress, k ∉ list.map GroupAddress.kind →
          list.filter (fun g => decide (g.kind = k)) = [] := by
        intro list hlist
        rw [List.filter_eq_nil_iff]
        intro g hg hkind
        exact hlist (List.mem_map.mpr ⟨g, hg, of_decide_eq_true hkind⟩)
      rw [hnone others hk, hnone records (hkinds ▸ hk)]
  have hnames := congrArg (List.map Entry.name) hentries
  rw [List.map_map, List.map_map] at hnames
  exact hnames

end Alike

/-! ## Exchanges of neighbours -/

section Exchange

variable {front rest : List GroupAddress} {g h : GroupAddress}

/-- An exchange of two records of different kinds keeps the records of every kind. -/
theorem filter_exchange (hne : g.kind ≠ h.kind) (k : Kind) :
    (front ++ g :: h :: rest).filter (fun r => decide (r.kind = k)) =
      (front ++ h :: g :: rest).filter fun r => decide (r.kind = k) := by
  rw [List.filter_append, List.filter_append]
  by_cases hg : g.kind = k
  · have hh : ¬ h.kind = k := fun hh => hne (hg.trans hh.symm)
    simp [hg, hh]
  · simp [List.filter_cons, hg]

/-- An exchange of two records of different kinds keeps the order in which the kinds first occur,
unless both of them are the first of their kinds. -/
theorem kinds_exchange_iff (hne : g.kind ≠ h.kind) :
    ((front ++ g :: h :: rest).map GroupAddress.kind).eraseDups =
        ((front ++ h :: g :: rest).map GroupAddress.kind).eraseDups ↔
      ¬ (g.kind ∉ front.map GroupAddress.kind ∧ h.kind ∉ front.map GroupAddress.kind) := by
  rw [List.map_append, List.map_append, List.eraseDups_append, List.eraseDups_append,
    List.append_cancel_left_eq]
  simp only [List.map_cons, List.removeAll]
  generalize front.map GroupAddress.kind = before
  by_cases hg : g.kind ∈ before
  · simp [List.filter_cons, hg]
  · by_cases hh : h.kind ∈ before
    · simp [hg, hh]
    · simp [List.filter_cons, List.eraseDups_cons, hg, hh, hne]

end Exchange

/-- **How the kinds are interleaved does not matter.** Records whose kinds first occur in the same
order, and of which those of each kind are the same in the same order, have the same annotations,
character for character. In particular an exchange of two neighbours of different kinds changes the
annotations only if both are the first records of their kinds, and then it does. -/
theorem document_of_interleavings :
    (∀ records others : List GroupAddress,
      (records.map GroupAddress.kind).eraseDups = (others.map GroupAddress.kind).eraseDups →
      (∀ k, records.filter (fun g => decide (g.kind = k)) =
        others.filter fun g => decide (g.kind = k)) →
      document records = document others) ∧
    ∀ (front rest : List GroupAddress) (g h : GroupAddress), g.kind ≠ h.kind →
      (document (front ++ g :: h :: rest) = document (front ++ h :: g :: rest) ↔
        ¬ (g.kind ∉ front.map GroupAddress.kind ∧ h.kind ∉ front.map GroupAddress.kind)) := by
  have halike : ∀ records others : List GroupAddress,
      (records.map GroupAddress.kind).eraseDups = (others.map GroupAddress.kind).eraseDups →
      (∀ k, records.filter (fun g => decide (g.kind = k)) =
        others.filter fun g => decide (g.kind = k)) →
      document records = document others := by
    intro records others hkinds hmembers
    exact document_eq_of_groups (KindGroup.ofRecords_eq_of_alike hkinds hmembers)
  refine ⟨halike, ?_⟩
  intro front rest g h hne
  constructor
  · intro hsame
    exact (kinds_exchange_iff hne).mp (kinds_eq_of_document hsame)
  · intro hfirst
    apply halike
    · exact (kinds_exchange_iff hne).mpr hfirst
    · exact filter_exchange hne

/-- Five records of three kinds, as they come and sorted by kind, have the same annotations. The
first two of them are the first of their kinds, so their exchange shows. -/
theorem document_of_interleavings_sorted :
    document
        [⟨⟨none, "Floor"⟩, "Bathroom", .heat, ⟨3, 2, 1⟩, .known 1⟩,
          ⟨⟨none, "Hall"⟩, "", .switch, ⟨1, 2, 1⟩, .known 1⟩,
          ⟨⟨none, "Clock"⟩, "", .other, ⟨9, 0, 0⟩, .unknown⟩,
          ⟨⟨none, "Wall"⟩, "", .heat, ⟨3, 2, 2⟩, .unknown⟩,
          ⟨⟨none, "Hall"⟩, "", .switch, ⟨1, 2, 2⟩, .known 1⟩] =
      document
        [⟨⟨none, "Floor"⟩, "Bathroom", .heat, ⟨3, 2, 1⟩, .known 1⟩,
          ⟨⟨none, "Wall"⟩, "", .heat, ⟨3, 2, 2⟩, .unknown⟩,
          ⟨⟨none, "Hall"⟩, "", .switch, ⟨1, 2, 1⟩, .known 1⟩,
          ⟨⟨none, "Hall"⟩, "", .switch, ⟨1, 2, 2⟩, .known 1⟩,
          ⟨⟨none, "Clock"⟩, "", .other, ⟨9, 0, 0⟩, .unknown⟩] ∧
    document
        [⟨⟨none, "Floor"⟩, "Bathroom", .heat, ⟨3, 2, 1⟩, .known 1⟩,
          ⟨⟨none, "Hall"⟩, "", .switch, ⟨1, 2, 1⟩, .known 1⟩] ≠
      document
        [⟨⟨none, "Hall"⟩, "", .switch, ⟨1, 2, 1⟩, .known 1⟩,
          ⟨⟨none, "Floor"⟩, "Bathroom", .heat, ⟨3, 2, 1⟩, .known 1⟩] := by
  obtain ⟨halike, hexchange⟩ := document_of_interleavings
  constructor
  · apply halike
    · decide
    · intro k
      cases k <;> rfl
  · intro hsame
    have hfirst := (hexchange [] [] _ _ (by decide)).mp hsame
    exact hfirst ⟨by simp, by simp⟩

end KnxExport.Lua.Annotations
