import Facade.Table

/-!
# References

A reference names a module together with the place it was loaded from.

* `Reference`, `ReferenceSet`: references, and sets of them without repeated places.
* `ReferenceSet.add`: adds a reference unless its place is taken.
* `mem_locations_add`, `add_of_hasLocation`: a set only grows, and stays as it is when the place
  is taken.
-/

namespace Facade

/-- A module that generated code needs in scope. -/
structure Reference where
  /-- The name of the module. -/
  moduleName : String
  /-- Where it was loaded from. -/
  location : String
  deriving DecidableEq, Repr, Inhabited

/-- References without repeated places, in the order in which they were added. -/
structure ReferenceSet where
  /-- The references by place. -/
  byLocation : Table String Reference := {}
  deriving Repr, Inhabited

namespace ReferenceSet

/-- The references, oldest first. -/
def toList (s : ReferenceSet) : List Reference := s.byLocation.values

/-- The places, oldest first. -/
def locations (s : ReferenceSet) : List String := s.byLocation.keys

/-- The names of the modules, each once, in the order in which they were added. -/
def moduleNames (s : ReferenceSet) : List String := (s.toList.map Reference.moduleName).eraseDups

/-- How many references there are. -/
def size (s : ReferenceSet) : Nat := s.byLocation.size

/-- Whether a place is taken. -/
def hasLocation (s : ReferenceSet) (location : String) : Bool := s.byLocation.contains location

/-- Adds a reference unless its place is taken. -/
def add (s : ReferenceSet) (r : Reference) : ReferenceSet :=
  ⟨s.byLocation.setDefault r.location r⟩

/-- The set of the given references. -/
def ofList (rs : List Reference) : ReferenceSet := rs.foldl add {}

theorem locations_add (s : ReferenceSet) (r : Reference) :
    (s.add r).locations =
      if r.location ∈ s.locations then s.locations else s.locations ++ [r.location] :=
  Table.keys_setDefault s.byLocation r.location r

theorem hasLocation_iff (s : ReferenceSet) (l : String) : s.hasLocation l = true ↔ l ∈ s.locations :=
  Table.contains_iff s.byLocation l

theorem add_of_hasLocation {s : ReferenceSet} {r : Reference} (h : s.hasLocation r.location = true) :
    s.add r = s := by
  unfold hasLocation at h
  simp [add, Table.setDefault, h]

/-- **A set only grows.** -/
theorem mem_locations_add {s : ReferenceSet} {r : Reference} {l : String} (h : l ∈ s.locations) :
    l ∈ (s.add r).locations := by
  rw [locations_add]
  split
  · exact h
  · exact List.mem_append_left _ h

end ReferenceSet

end Facade
