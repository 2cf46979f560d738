import Storyboard.Declaration.Outline
import Storyboard.Declaration.TimeToken
import Storyboard.State.Basic

/-!
# Timelines

A declaration and the declarations nested below it become the states of one object. Each state
takes its attributes from the one before it: the first of some siblings from their parent, the
others from the sibling in front, unless the declaration resets them. Its time is its own time
token; else its relative time, counted from the last token among the siblings in front, or else
from the token of the parent, or else from the token of the root; else its additional time,
counted from the state in front; else the time that comes with the attributes. The states are then
sorted by time, states of one time in the order of the document.
-/
namespace Storyboard

namespace State

variable {category : Category}

/-- The number in a field of a declaration. -/
def numberIn (node : Node) (field : String) : Option Finite64 :=
  (Keyed.get? node field).bind Json.real?

/-- Whether a declaration starts from the blank state. -/
def resets (node : Node) : Bool :=
  (Keyed.get? node "reset").bind Json.bool? == some true

/-- The attributes that a declaration gives. -/
def patchOf (category : Category) (node : Node) : Except Fault (Attributes category) :=
  match Attributes.read category fun name => (Keyed.get? node name).map Json.Draft.ofJson with
  | .ok attributes => .ok attributes
  | .error mismatch =>
    .error { cause := .badState category mismatch, category := some category }

/-- The state of a declaration that comes after another state, if any; its time is not yet its
own. -/
def follow (before : Option (State category)) (node : Node) : Except Fault (State category) := do
  let start := if resets node then blank category else before.getD (blank category)
  let patch ← patchOf category node
  return {
    time := start.time
    relativeTime := numberIn node "relative_time"
    addTime := numberIn node "add_time"
    attributes := start.attributes.overlay patch }

end State

/-- A time moved by a number of seconds; `never` cannot be moved. -/
def shift (base : Binary64) (seconds : Finite64) : Binary64 :=
  if base = never then never else base + seconds.val

/-- Where a walk along the declarations of an object stands. -/
structure Cursor (category : Category) where
  /-- What relative times count from. -/
  base : Binary64
  /-- The state in front. -/
  last : State category
  binding : Binding

namespace Cursor

variable {category : Category}

/-- The time of the next state, given its token's time and the state that its declaration makes. -/
def timeOf (cursor : Cursor category) (token : Option Binary64) (state : State category) :
    Binary64 :=
  match token, state.relativeTime, state.addTime with
  | some time, _, _ => time
  | none, some seconds, _ => shift cursor.base seconds
  | none, none, some seconds => shift cursor.last.time seconds
  | none, none, none => state.time

end Cursor

namespace Outline

variable {category : Category}

/-- The states of an outline in the order of the document, and what is bound after them. -/
def states (chart : Chart) (rootTime : Option Binary64) :
    Outline → Cursor category → Except (Stop Fault) (List (State category) × Binding)
  | done, cursor => .ok ([], cursor.binding)
  | broken stop, _ => .error stop
  | entry node below next, cursor => do
    let token := Keyed.get? node "time"
    let time ← (WrittenTime.resolve chart cursor.binding (ownNote node) token).mapError .failed
    let state ← (State.follow (some cursor.last) node).mapError .failed
    let state := { state with time := cursor.timeOf time state }
    let inner : Cursor category :=
      { base := (time.or rootTime).getD never
        last := state
        binding := WrittenTime.bindingAfter cursor.binding (ownNote node) token }
    let (nested, binding) ← states chart rootTime (below ()) inner
    let (others, binding) ← states chart rootTime (next ())
      { base := time.getD cursor.base, last := state, binding }
    return (state :: (nested ++ others), binding)

end Outline

namespace Timeline

/-- The states of an object in the order of the document, and what is bound after them. -/
def inOrder (category : Category) (chart : Chart) (templates : Templates) (binding : Binding)
    (root : Node) : Except (Stop Fault) (List (State category) × Binding) := do
  let token := Keyed.get? root "time"
  let time ← (WrittenTime.resolve chart binding (ownNote root) token).mapError .failed
  let first ← (State.follow none root).mapError .failed
  let first := { first with time := time.getD never }
  let (nested, binding) ← (Outline.ofNode chart templates root).states chart time
    { base := time.getD never
      last := first
      binding := WrittenTime.bindingAfter binding (ownNote root) token }
  return (first :: nested, binding)

/-- The states of an object, sorted by time, and what is bound after them. -/
def build (category : Category) (chart : Chart) (templates : Templates) (binding : Binding)
    (root : Node) : Except (Stop Fault) (List (State category) × Binding) := do
  let (states, binding) ← inOrder category chart templates binding root
  return (states.mergeSort State.timeLe, binding)

end Timeline
end Storyboard
