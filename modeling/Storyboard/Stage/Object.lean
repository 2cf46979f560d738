import Storyboard.State.Basic

/-!
# Stage objects and their tables

A stage object has an id, maybe a target or a parent it is attached to, and its states. A table
holds the objects of one category under different ids, in increasing order of the ids.
-/
namespace Storyboard

structure StageObject (category : Category) where
  id : String
  targetId : Option String
  parentId : Option String
  states : List (State category)
deriving DecidableEq

namespace StageObject

open Json

variable {category : Category}

def columns (category : Category) : List Column :=
  [⟨"id", String, Reader.text, none⟩,
   ⟨"target_id", Option String, Reader.optional Reader.text, some none⟩,
   ⟨"parent_id", Option String, Reader.optional Reader.text, some none⟩,
   ⟨"states", List (State category), Reader.list (State.read category), some []⟩]

def ofRecord : Record (columns category) → StageObject category
  | (id, targetId, parentId, states, ()) => ⟨id, targetId, parentId, states⟩

/-- Reads an object as it is written in a compiled board. -/
def read (category : Category) : Reader (StageObject category) := fun draft =>
  (Record.read "struct StageObject" (columns category) draft).map ofRecord

/-- The object with all its fields. -/
def toJson (object : StageObject category) : Json :=
  Json.ofFields
    [("id", .str object.id),
     ("target_id", Json.orNull Json.str object.targetId),
     ("parent_id", Json.orNull Json.str object.parentId),
     ("states", .arr (object.states.map State.toJson))]

end StageObject

structure Table (category : Category) where
  objects : List (StageObject category)
  sorted : objects.Pairwise fun a b => a.id < b.id
deriving DecidableEq

namespace Table

variable {category : Category}

def empty : Table category := ⟨[], .nil⟩

def size (table : Table category) : Nat := table.objects.length

def get? (table : Table category) (id : String) : Option (StageObject category) :=
  table.objects.find? fun object => object.id = id

/-- Puts an object at its place in the order. -/
def place (object : StageObject category) :
    List (StageObject category) → List (StageObject category)
  | [] => [object]
  | first :: rest =>
    if object.id < first.id then object :: first :: rest else first :: place object rest

theorem perm_place {object : StageObject category} {objects : List (StageObject category)} :
    (place object objects).Perm (object :: objects) := by
  induction objects with
  | nil => exact .refl _
  | cons first rest ih =>
    simp only [place]
    split
    · exact .refl _
    · exact (ih.cons first).trans (.swap object first rest)

theorem mem_place {object other : StageObject category} {objects : List (StageObject category)} :
    other ∈ place object objects ↔ other = object ∨ other ∈ objects :=
  perm_place.mem_iff.trans List.mem_cons

theorem pairwise_place {object : StageObject category} {objects : List (StageObject category)}
    (sorted : objects.Pairwise fun a b => a.id < b.id)
    (fresh : ∀ other ∈ objects, other.id ≠ object.id) :
    (place object objects).Pairwise fun a b => a.id < b.id := by
  induction objects with
  | nil => simp [place]
  | cons first rest ih =>
    obtain ⟨below, sortedRest⟩ := List.pairwise_cons.1 sorted
    simp only [place]
    split
    · next before =>
      refine List.pairwise_cons.2 ⟨fun other member => ?_, sorted⟩
      rcases List.mem_cons.1 member with rfl | member
      · exact before
      · exact String.lt_trans before (below other member)
    · next notBefore =>
      refine List.pairwise_cons.2 ⟨fun other member => ?_, ih sortedRest fun other member =>
        fresh other (List.mem_cons_of_mem first member)⟩
      rcases mem_place.1 member with rfl | member
      · have differs : first.id ≠ other.id := fresh first (List.mem_cons_self ..)
        exact Decidable.byContradiction fun notAfter =>
          differs (String.le_antisymm (String.not_lt.1 notBefore) (String.not_lt.1 notAfter))
      · exact below other member

/-- Adds an object unless its id is taken. -/
def add? (table : Table category) (object : StageObject category) : Option (Table category) :=
  if fresh : ∀ other ∈ table.objects, other.id ≠ object.id then
    some ⟨place object table.objects, pairwise_place table.sorted fresh⟩
  else none

end Table
end Storyboard
