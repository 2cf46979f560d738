import Storyboard.State.Schema

/-!
# States of a stage object

A state is a moment in the life of a stage object: its time and its attributes at that time. A
state at the time `never` is not shown. The times that were given relative to other states are
kept beside the resolved time.
-/
namespace Storyboard

/-- The time of a state that is never shown: the largest finite number, behind every real time. -/
def never : Binary64 := Binary64.largest false

structure State (category : Category) where
  time : Binary64
  relativeTime : Option Finite64
  addTime : Option Finite64
  attributes : Attributes category
deriving DecidableEq

namespace State

open Json

variable {category : Category}

def blank (category : Category) : State category :=
  ⟨never, none, none, Attributes.blank category⟩

/-- Lays the attributes of a patch over a state; the times stay. -/
def overlay (state patch : State category) : State category :=
  { state with attributes := state.attributes.overlay patch.attributes }

/-- The order by time, which also places every NaN. -/
def timeLe (a b : State category) : Bool := a.time.totalLe b.time

/-- The field of a draft that a name refers to. -/
def givenIn (fields : List (Option String × Draft)) (name : String) : Option Draft :=
  (fields.find? fun field => field.1 = some name).map Prod.snd

/-- Reads a state as it is written in a compiled board. Only the time may not be null. -/
def read (category : Category) : Reader (State category) := fun draft =>
  match draft with
  | .obj fields closed => do
    let given := givenIn fields
    let optionalReal (name : String) : Except Mismatch (Option Finite64) :=
      match given name with
      | none => .ok none
      | some draft => Reader.optional Reader.real draft
    let own ← Row.read given category.ownFields
    let addTime ← optionalReal "add_time"
    let common ← Row.read given commonFields
    let relativeTime ← optionalReal "relative_time"
    let time ← match given "time" with
      | none => .ok never
      | some draft => (Reader.real draft).map Finite64.toBinary
    let placement ← Row.read given category.placement
    if closed then .ok ⟨time, relativeTime, addTime, ⟨own, common, placement⟩⟩
    else .error .notJson
  | _ => .error (.ofDraft draft category.stateRecord)

/-- The fields of a written state. A null is written for what is not given, and for a time that is
no finite number. -/
def toFields (state : State category) : List (String × Json) :=
  [("time", Json.orNull Json.real (Finite64.ofBinary? state.time)),
   ("relative_time", Json.orNull Json.real state.relativeTime),
   ("add_time", Json.orNull Json.real state.addTime)] ++ state.attributes.toFields

def toJson (state : State category) : Json := Json.ofFields state.toFields

end State
end Storyboard
