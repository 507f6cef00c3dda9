import KnxExport.GroupAddress

/-!
# Records grouped by kind

Records are sorted into groups one after the other: a record joins the group of its kind, or opens
one behind all others if there is none yet. A group therefore has at least one member, and all of
its members are of its kind, which its type says.
-/

namespace KnxExport

/-- Records of one kind. -/
structure KindGroup where
  /-- The kind of all members. -/
  kind : Kind
  /-- The records, in the order in which they came. -/
  members : Array GroupAddress
  members_ne : members ≠ #[]
  kind_of_mem : ∀ g ∈ members, g.kind = kind

namespace KindGroup

/-- The group that a record opens. -/
def single (g : GroupAddress) : KindGroup where
  kind := g.kind
  members := #[g]
  members_ne := by simp
  kind_of_mem := by simp

/-- The group with one more member. -/
def add (group : KindGroup) (g : GroupAddress) (h : g.kind = group.kind) : KindGroup where
  kind := group.kind
  members := group.members.push g
  members_ne := Array.push_ne_empty
  kind_of_mem := by
    intro member hmember
    obtain hold | rfl := Array.mem_push.mp hmember
    · exact group.kind_of_mem member hold
    · exact h

/-- The groups with one more record. -/
def insert (g : GroupAddress) : List KindGroup → List KindGroup
  | [] => [single g]
  | group :: groups =>
    if h : g.kind = group.kind then group.add g h :: groups else group :: insert g groups

/-- The groups of records. -/
def ofRecords (records : List GroupAddress) : List KindGroup :=
  records.foldl (fun groups g => insert g groups) []

end KindGroup

end KnxExport
