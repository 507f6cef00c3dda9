import KnxExport.Address

/-!
# Kinds of group addresses

What a group address controls follows from its main group, in the case of scenes together with the
middle group.
-/

namespace KnxExport

/-- What a group address controls. -/
inductive Kind where
  | other
  | switch
  | dimmer
  | heat
  | vent
  | scene
  | media
  | control
  deriving DecidableEq, Repr

namespace Kind

instance : Inhabited Kind := ⟨.other⟩

/-- All kinds, in their order. -/
def all : List Kind :=
  [.other, .switch, .dimmer, .heat, .vent, .scene, .media, .control]

/-- The name of a kind. -/
def label : Kind → String
  | .other => "Other"
  | .switch => "Switch"
  | .dimmer => "Dimmer"
  | .heat => "Heat"
  | .vent => "Vent"
  | .scene => "Scene"
  | .media => "Media"
  | .control => "Control"

/-- A kind is found by its name. -/
theorem find?_label (kind : Kind) :
    all.find? (fun known => known.label == kind.label) = some kind := by
  cases kind <;> decide

/-- Kinds with one name are one kind. -/
theorem label_inj {k l : Kind} (h : k.label = l.label) : k = l := by
  have hfind := find?_label k
  rw [h, find?_label] at hfind
  exact (Option.some.inj hfind).symm

/-- The word that starts the display names of a kind. Addresses of no particular kind have none. -/
def lead? : Kind → Option String
  | .other => none
  | kind => some kind.label

/-- The kind that an address has by its main and middle group. -/
def ofAddress (a : Address) : Kind :=
  if a.main = 0 ∧ a.middle = 2 then .scene
  else if a.main = 1 then .switch
  else if a.main = 2 then .dimmer
  else if a.main = 3 then .heat
  else if a.main = 4 then .vent
  else if a.main = 5 then .media
  else if a.main = 6 then .control
  else .other

end Kind

end KnxExport
