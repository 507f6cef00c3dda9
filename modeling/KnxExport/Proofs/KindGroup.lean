import Mathlib.Data.List.Basic
import Mathlib.Data.List.Induction
import KnxExport.KindGroup

/-!
# What the groups of records are

Sorting records into groups loses no record, keeps their order within a kind, and opens the groups
in the order in which the kinds first occur. `Sorted` says so of any records and groups.

Main statements: `sorted_ofRecords`, and `ofRecords_eq_of_alike`, what of the records the groups
depend on. One more record keeps the groups sorted (`Sorted.insert`), which rests on what `insert`
does to the kinds (`map_kind_insert`) and to one group (`mem_insert`); the rest is induction over
the records, the last one first.
-/

namespace KnxExport.KindGroup

/-! ## One more record -/

section Insert

variable {g : GroupAddress} {groups : List KindGroup} {group : KindGroup}

/-- A record of a kind that has a group opens none; otherwise its group comes last. -/
theorem map_kind_insert (g : GroupAddress) (groups : List KindGroup) :
    (insert g groups).map kind =
      if g.kind ∈ groups.map kind then groups.map kind else groups.map kind ++ [g.kind] := by
  induction groups with
  | nil => rfl
  | cons group groups ih =>
    rw [insert]
    by_cases hkind : g.kind = group.kind
    · rw [dif_pos hkind, List.map_cons, List.map_cons, hkind, if_pos List.mem_cons_self]
      rfl
    · rw [dif_neg hkind, List.map_cons, List.map_cons, ih]
      by_cases hmem : g.kind ∈ groups.map kind
      · rw [if_pos hmem, if_pos (List.mem_cons_of_mem _ hmem)]
      · rw [if_neg hmem, if_neg (by simp [hkind, hmem])]
        rfl

/-- A group after one more record is an old one of another kind, the old one of the record's kind
with the record behind its members, or a new one with this record alone. -/
theorem mem_insert (hnodup : (groups.map kind).Nodup) (h : group ∈ insert g groups) :
    (group ∈ groups ∧ group.kind ≠ g.kind) ∨
    (∃ old ∈ groups, old.kind = group.kind ∧ group.kind = g.kind ∧
      group.members.toList = old.members.toList ++ [g]) ∨
    (g.kind ∉ groups.map kind ∧ group.kind = g.kind ∧ group.members.toList = [g]) := by
  induction groups with
  | nil =>
    obtain rfl : group = single g := by simpa [insert] using h
    exact .inr (.inr ⟨by simp, rfl, rfl⟩)
  | cons first groups ih =>
    rw [List.map_cons, List.nodup_cons] at hnodup
    obtain ⟨hfirst, hnodup⟩ := hnodup
    rw [insert] at h
    by_cases hkind : g.kind = first.kind
    · rw [dif_pos hkind, List.mem_cons] at h
      obtain rfl | hrest := h
      · exact .inr (.inl ⟨first, List.mem_cons_self, rfl, hkind.symm, by simp [add]⟩)
      · -- No other group has the kind of the first one, which is the kind of the record.
        refine .inl ⟨List.mem_cons_of_mem _ hrest, ?_⟩
        rintro hsame
        exact hfirst (List.mem_map.mpr ⟨group, hrest, hsame.trans hkind⟩)
    · rw [dif_neg hkind, List.mem_cons] at h
      obtain rfl | hrest := h
      · exact .inl ⟨List.mem_cons_self, fun hsame => hkind hsame.symm⟩
      · obtain ⟨hmem, hne⟩ | ⟨old, hmem, hold⟩ | ⟨hnew, hgroup⟩ := ih hnodup hrest
        · exact .inl ⟨List.mem_cons_of_mem _ hmem, hne⟩
        · exact .inr (.inl ⟨old, List.mem_cons_of_mem _ hmem, hold⟩)
        · exact .inr (.inr ⟨by simp [hkind, hnew], hgroup⟩)

/-- The members of all groups are the old ones and the new record. -/
theorem flatMap_members_insert (g : GroupAddress) (groups : List KindGroup) :
    ((insert g groups).flatMap fun group => group.members.toList).Perm
      (groups.flatMap (fun group => group.members.toList) ++ [g]) := by
  induction groups with
  | nil => rfl
  | cons group groups ih =>
    rw [insert]
    by_cases hkind : g.kind = group.kind
    · rw [dif_pos hkind]
      simp only [List.flatMap_cons, add, Array.toList_push, List.append_assoc]
      exact List.perm_append_comm.append_left _
    · rw [dif_neg hkind, List.flatMap_cons, List.flatMap_cons, List.append_assoc]
      exact ih.append_left _

end Insert

/-! ## All records -/

/-- The groups are those of the records. -/
structure Sorted (records : List GroupAddress) (groups : List KindGroup) : Prop where
  /-- A kind has a group if it occurs. -/
  mem_kinds : ∀ k, k ∈ groups.map kind ↔ k ∈ records.map GroupAddress.kind
  /-- Groups come in the order in which their kinds first occur, so that no kind has two. -/
  ordered : (groups.map kind).Pairwise fun k l =>
    (records.map GroupAddress.kind).idxOf k < (records.map GroupAddress.kind).idxOf l
  /-- The members of a group are the records of its kind, in their order. -/
  members : ∀ group ∈ groups,
    group.members.toList = records.filter fun g => decide (g.kind = group.kind)
  /-- All members together are all records. -/
  perm : (groups.flatMap fun group => group.members.toList).Perm records

namespace Sorted

variable {records : List GroupAddress} {groups : List KindGroup}

/-- No kind has two groups. -/
theorem nodup (h : Sorted records groups) : (groups.map kind).Nodup := by
  refine h.ordered.imp ?_
  rintro k l hlt rfl
  exact absurd hlt (Nat.lt_irrefl _)

/-- The order of the kinds that occur does not depend on more records behind them. -/
theorem ordered_append (h : Sorted records groups) (g : GroupAddress) :
    (groups.map kind).Pairwise fun k l =>
      ((records ++ [g]).map GroupAddress.kind).idxOf k <
        ((records ++ [g]).map GroupAddress.kind).idxOf l := by
  refine h.ordered.imp_of_mem ?_
  intro k l hk hl hlt
  rw [List.map_append, List.idxOf_append_of_mem ((h.mem_kinds k).mp hk),
    List.idxOf_append_of_mem ((h.mem_kinds l).mp hl)]
  exact hlt

/-- One more record keeps the groups sorted. -/
theorem insert (h : Sorted records groups) (g : GroupAddress) :
    Sorted (records ++ [g]) (KindGroup.insert g groups) where
  mem_kinds := by
    intro k
    rw [map_kind_insert, List.map_append, List.mem_append, ← h.mem_kinds]
    split
    · next hmem =>
      constructor
      · exact .inl
      · rintro (hk | hk)
        · exact hk
        · obtain rfl : k = g.kind := by simpa using hk
          exact hmem
    · rw [List.mem_append]
      rfl
  ordered := by
    rw [map_kind_insert]
    split
    · exact h.ordered_append g
    · next hnew =>
      refine List.pairwise_append.mpr ⟨h.ordered_append g, List.pairwise_singleton _ _, ?_⟩
      rintro k hk l hl
      obtain rfl : l = g.kind := by simpa using hl
      -- The new kind first occurs at the end, the old ones before it.
      have hold := (h.mem_kinds k).mp hk
      have hfirst : g.kind ∉ records.map GroupAddress.kind := fun hmem =>
        hnew ((h.mem_kinds _).mpr hmem)
      have hlt := List.idxOf_lt_length_of_mem hold
      rw [List.map_append, List.idxOf_append_of_mem hold, List.idxOf_append_of_notMem hfirst]
      omega
  members := by
    intro group hgroup
    rw [List.filter_append]
    obtain ⟨hmem, hne⟩ | ⟨old, hmem, hkind, hsame, heq⟩ | ⟨hnew, hsame, heq⟩ :=
      mem_insert h.nodup hgroup
    · rw [h.members group hmem, List.filter_singleton, decide_eq_false (Ne.symm hne)]
      simp
    · rw [heq, h.members old hmem, hkind, List.filter_singleton, decide_eq_true hsame.symm]
      rfl
    · have hnone : records.filter (fun r => decide (r.kind = group.kind)) = [] := by
        rw [List.filter_eq_nil_iff]
        intro r hr hkind
        refine hnew ((h.mem_kinds _).mpr (List.mem_map.mpr ⟨r, hr, ?_⟩))
        rw [of_decide_eq_true hkind, hsame]
      rw [heq, hnone, List.filter_singleton, decide_eq_true hsame.symm]
      rfl
  perm := (flatMap_members_insert g groups).trans (h.perm.append_right [g])

end Sorted

/-- **Grouping sorts the records by kind.** -/
theorem sorted_ofRecords (records : List GroupAddress) : Sorted records (ofRecords records) := by
  induction records using List.reverseRecOn with
  | nil => exact ⟨fun k => Iff.rfl, .nil, by simp [ofRecords], .nil⟩
  | append_singleton records g ih =>
    rw [ofRecords, List.foldl_concat]
    exact ih.insert g

/-! ## What the groups depend on -/

/-- Groups come in the order in which their kinds first occur. -/
theorem map_kind_ofRecords (records : List GroupAddress) :
    (ofRecords records).map kind = (records.map GroupAddress.kind).eraseDups := by
  induction records using List.reverseRecOn with
  | nil => rfl
  | append_singleton records g ih =>
    rw [ofRecords, List.foldl_concat]
    show (insert g (ofRecords records)).map kind = _
    rw [map_kind_insert, ih, List.map_append, List.eraseDups_append, List.map_singleton]
    generalize records.map GroupAddress.kind = kinds
    by_cases hmem : g.kind ∈ kinds
    · rw [if_pos (List.mem_eraseDups.mpr hmem)]
      simp [List.removeAll, hmem]
    · rw [if_neg (fun h => hmem (List.mem_eraseDups.mp h))]
      simp [List.removeAll, hmem, List.eraseDups_cons]

/-- A group is its kind and its members. -/
theorem parts_injective :
    Function.Injective fun group : KindGroup => (group.kind, group.members.toList) := by
  rintro ⟨k, ⟨members⟩, _, _⟩ ⟨l, ⟨others⟩, _, _⟩ h
  cases h
  rfl

/-- The groups are, for each kind in the order in which they first occur, the records of that
kind. -/
theorem map_parts_ofRecords (records : List GroupAddress) :
    (ofRecords records).map (fun group => (group.kind, group.members.toList)) =
      (records.map GroupAddress.kind).eraseDups.map fun k =>
        (k, records.filter fun g => decide (g.kind = k)) := by
  rw [← map_kind_ofRecords, List.map_map]
  apply List.map_congr_left
  intro group hgroup
  rw [(sorted_ofRecords records).members group hgroup]
  rfl

/-- **The groups depend on the order in which the kinds first occur and on the records of each
kind**, and on nothing else. -/
theorem ofRecords_eq_of_alike {records others : List GroupAddress}
    (hkinds : (records.map GroupAddress.kind).eraseDups =
      (others.map GroupAddress.kind).eraseDups)
    (hmembers : ∀ k, records.filter (fun g => decide (g.kind = k)) =
      others.filter fun g => decide (g.kind = k)) :
    ofRecords records = ofRecords others := by
  apply parts_injective.list_map
  rw [map_parts_ofRecords, map_parts_ofRecords, hkinds]
  simp only [hmembers]

end KnxExport.KindGroup
