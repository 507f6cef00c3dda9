import Mathlib.Data.List.Infix
import KnxExport.GroupAddress

/-!
# Spellings of a label

At an address with a floor a label is spelled with the floor's mark in front or without it, and both
spellings give one name. A mark is stripped once, so a label that still begins with the mark after
that is another label. At an address without a floor every label has one spelling.

Main statement: `ofLabel_eq_iff`, the labels that give one name at an address. Names of one address
are shown alike only if they are the same (`text_ofLabel_inj`), and so are records
(`GroupAddress.displayName_eq_iff`).
-/

namespace KnxExport

/-- The mark that is derived from an address, empty if it has no floor. -/
def Floor.markAt (a : Address) : String :=
  ((Floor.ofAddress? a).map Floor.mark).getD ""

namespace Name

/-! ## Stripping a mark -/

/-- The mark of a floor is all that is stripped. -/
theorem stripMark_append (mark label : List Char) : stripMark mark (mark ++ label) = label := by
  rw [stripMark, if_pos (List.isPrefixOf_iff_prefix.mpr (List.prefix_append mark label)),
    List.drop_left]

/-- A label that does not begin with the mark is left as it is. -/
theorem stripMark_eq_self {mark label : List Char} (h : ¬ mark <+: label) :
    stripMark mark label = label := by
  rw [stripMark, if_neg (by simpa using h)]

/-- Labels are the same once a mark is stripped if they are the same or one is the other with the
mark in front, where the other does not begin with it. -/
theorem stripMark_eq_iff {mark label other : List Char} :
    stripMark mark label = stripMark mark other ↔
      label = other ∨ (label = mark ++ other ∧ ¬ mark <+: other) ∨
        (other = mark ++ label ∧ ¬ mark <+: label) := by
  constructor
  · intro hsame
    by_cases hlabel : mark <+: label
    · obtain ⟨short, rfl⟩ := hlabel
      rw [stripMark_append] at hsame
      by_cases hother : mark <+: other
      · obtain ⟨short', rfl⟩ := hother
        rw [stripMark_append] at hsame
        exact .inl (congrArg (mark ++ ·) hsame)
      · rw [stripMark_eq_self hother] at hsame
        exact .inr (.inl ⟨congrArg (mark ++ ·) hsame, hother⟩)
    · rw [stripMark_eq_self hlabel] at hsame
      by_cases hother : mark <+: other
      · obtain ⟨short, rfl⟩ := hother
        rw [stripMark_append] at hsame
        exact .inr (.inr ⟨congrArg (mark ++ ·) hsame.symm, hlabel⟩)
      · rw [stripMark_eq_self hother] at hsame
        exact .inl hsame
  · rintro (rfl | ⟨rfl, hother⟩ | ⟨rfl, hlabel⟩)
    · rfl
    · rw [stripMark_append, stripMark_eq_self hother]
    · rw [stripMark_append, stripMark_eq_self hlabel]

/-! ## Names at an address -/

/-- The label is the short one with the address's mark in front, and the short one does not begin
with that mark itself. -/
def Marked (a : Address) (label short : String) : Prop :=
  label = Floor.markAt a ++ short ∧ ¬ (Floor.markAt a).toList <+: short.toList

instance (a : Address) (label short : String) : Decidable (Marked a label short) :=
  inferInstanceAs (Decidable (_ ∧ _))

/-- A label and its short spelling, character for character. -/
theorem marked_iff {a : Address} {label short : String} :
    Marked a label short ↔ label.toList = (Floor.markAt a).toList ++ short.toList ∧
      ¬ (Floor.markAt a).toList <+: short.toList := by
  rw [Marked, ← String.toList_append, String.toList_inj]

/-- A name is the floor of the address and the label without the address's mark. -/
theorem ofLabel_eq (label : String) (a : Address) :
    ofLabel label a =
      ⟨Floor.ofAddress? a,
        String.ofList (stripMark (Floor.markAt a).toList label.toList)⟩ := by
  unfold ofLabel Floor.markAt
  cases Floor.ofAddress? a with
  | some floor => rfl
  | none => simp [stripMark]

/-- A name is shown with the address's mark in front. -/
theorem text_ofLabel (label : String) (a : Address) :
    (ofLabel label a).text =
      Floor.markAt a ++ String.ofList (stripMark (Floor.markAt a).toList label.toList) := by
  rw [ofLabel_eq, text]
  unfold mark Floor.markAt
  cases Floor.ofAddress? a <;> rfl

/-- Names of one address that are shown alike are the same. -/
theorem text_ofLabel_inj {label other : String} {a : Address} :
    (ofLabel label a).text = (ofLabel other a).text ↔ ofLabel label a = ofLabel other a := by
  constructor
  · intro hsame
    rw [text_ofLabel, text_ofLabel, String.append_right_inj] at hsame
    rw [ofLabel_eq, ofLabel_eq, hsame]
  · intro hsame
    rw [hsame]

/-- A name that a label gives at an address is read back from its text there, also where the label
without the floor's mark begins with that mark again. -/
theorem ofLabel_text (label : String) (a : Address) :
    ofLabel (ofLabel label a).text a = ofLabel label a := by
  rw [text_ofLabel, ofLabel_eq, String.toList_append, stripMark_append, String.ofList_toList,
    ← ofLabel_eq]

/-- **Two labels give one name at an address** if they are the same or one of them is the other with
the address's mark in front, where the other does not begin with it. -/
theorem ofLabel_eq_iff {label other : String} {a : Address} :
    ofLabel label a = ofLabel other a ↔
      label = other ∨ Marked a label other ∨ Marked a other label := by
  rw [marked_iff, marked_iff, ← String.toList_inj, ← stripMark_eq_iff, ofLabel_eq, ofLabel_eq,
    Name.mk.injEq, String.ofList_inj]
  simp only [true_and]

/-- The long spelling of a label is what the name is shown as. -/
theorem Marked.eq_text {a : Address} {label short : String} (h : Marked a label short) :
    label = (ofLabel short a).text := by
  obtain ⟨rfl, hshort⟩ := h
  rw [text_ofLabel, stripMark_eq_self hshort, String.ofList_toList]

end Name

/-- Records of one kind are shown alike if their names are. -/
theorem GroupAddress.displayName_eq_iff {g h : GroupAddress} (hkind : g.kind = h.kind) :
    g.displayName = h.displayName ↔ g.name.text = h.name.text := by
  unfold displayName
  rw [hkind]
  cases h.kind.lead? <;> simp

end KnxExport
