import Storyboard.Board.Basic
import Storyboard.Declaration.Timeline

/-!
# Loading declarations

Each element of a category array is fanned out, and each variant becomes one object: it is merged
with its templates, its identity is checked, its states are built, and its ids are filled in. A
variant without an id gets one from a counter that all categories share. Every variant has a
binding of its own, so nothing passes from one to the next but the counter.

Making the states of a variant need not come to an end. Then the load does not either, whatever the
other declarations are.
-/
namespace Storyboard

/-- A declaration whose states are built but whose ids are not filled in. -/
structure Prepared (category : Category) where
  id : Option String
  targetId : Option String
  parentId : Option String
  own : Option NoteId
  binding : Binding
  states : List (State category)

namespace Prepared

variable {category : Category}

/-- The category's default time, for a declaration without a time. It is set before templates are
merged, so that it also hides a template's time. -/
def withDefaultTime (category : Category) (node : Node) : Node :=
  match category.defaultTime?, node.given? "time" with
  | some time, none => Keyed.insert "time" (.real time) node
  | _, _ => node

/-- A text field; a null counts as absent. -/
def textIn (node : Node) (field : String) : Except Fault (Option String) :=
  match node.given? field with
  | none => .ok none
  | some (.str text) => .ok (some text)
  | some value => .error ((Fault.of (.notString field)).within value.compact)

/-- The texts that identify an object, if its declaration gives texts that go together: an id, a
target and a parent. -/
def identify (node : Node) : Except Fault (Option String × Option String × Option String) := do
  let id ← textIn node "id"
  let targetId ← textIn node "target_id"
  let parentId ← textIn node "parent_id"
  if id.isSome && targetId.isSome then .error (.of .idWithTarget)
  else if targetId.isSome && parentId.isSome then .error (.of .targetWithParent)
  else .ok (id, targetId, parentId)

def ofNode (category : Category) (chart : Chart) (templates : Templates) (node : Node) :
    Except (Stop Fault) (Prepared category) := do
  let node ← (templates.complete (withDefaultTime category node)).mapError .failed
  let (id, targetId, parentId) ← (identify node).mapError .failed
  let (states, binding) ← Timeline.build category chart templates none node
  return ⟨id, targetId, parentId, ownNote node, binding, states⟩

/-- An id with the note for the placeholder. -/
def filled (prepared : Prepared category) (text : String) : Except Fault String :=
  Placeholder.fillIn prepared.binding prepared.own text

def filled? (prepared : Prepared category) : Option String → Except Fault (Option String)
  | none => .ok none
  | some text => (prepared.filled text).map some

/-- The id of a declaration without one, at a value of the counter. -/
def numberedId (category : Category) (counter : Nat) : String :=
  s!"auto:{category.key}:{counter}"

/-- Fills in the ids. The counter moves on when it generates an id, even if a later id cannot be
filled in. -/
def finish (prepared : Prepared category) (counter : Nat) :
    Except Fault (StageObject category) × Nat :=
  let (id, counter) := match prepared.id with
    | some text => (prepared.filled text, counter)
    | none => (.ok (numberedId category (counter + 1)), counter + 1)
  let object := do
    let id ← id
    let targetId ← prepared.filled? prepared.targetId
    let parentId ← prepared.filled? prepared.parentId
    return ⟨id, targetId, parentId, prepared.states⟩
  (object, counter)

end Prepared

namespace Declarations

/-- Applies a step to each item in order, handing a value on. -/
def threaded {α β σ : Type} (step : α → σ → β × σ) : List α → σ → List β × σ
  | [], s => ([], s)
  | x :: rest, s =>
    let (y, s) := step x s
    let (ys, s) := threaded step rest s
    (y :: ys, s)

section

variable (chart : Chart) (templates : Templates)

/-- The object of one variant, and the counter after it. -/
def object (category : Category) (node : Node) (counter : Nat) :
    Except (Stop Fault) (StageObject category) × Nat :=
  match Prepared.ofNode category chart templates node with
  | .error stop => (.error stop, counter)
  | .ok prepared =>
    let (object, counter) := prepared.finish counter
    (object.mapError .failed, counter)

/-- The outcomes of one element of a category array, which comes with its position. -/
def ofElement (category : Category) (element : Json × Nat) (counter : Nat) :
    List (Outcome category) × Nat :=
  let (item, index) := element
  match item with
  | .obj node =>
    match fanOut chart node with
    | .error fault => ([⟨index, .error (.failed fault)⟩], counter)
    | .ok variants =>
      let (results, counter) := threaded (object chart templates category) variants counter
      (results.map fun result => ⟨index, result⟩, counter)
  | _ => ([⟨index, .error (.failed (.of .declarationNotObject))⟩], counter)

/-- The outcomes of a category array. -/
def outcomes (category : Category) (items : List Json) (counter : Nat) :
    List (Outcome category) × Nat :=
  let (lists, counter) := threaded (ofElement chart templates category) items.zipIdx counter
  (lists.flatten, counter)

/-- The load of a category, and the counter after it. -/
def ofCategory (root : Node) (category : Category) (counter : Nat) : CategoryLoad category × Nat :=
  match root.given? category.key with
  | none => (.bare [], counter)
  | some (.arr items) =>
    let (found, counter) := outcomes chart templates category items counter
    (.ofOutcomes found, counter)
  | some _ =>
    let fault := { Fault.of (.notArray category.key) with category := some category }
    (.bare [fault], counter)

end

/-- Keeps the triggers that load, with a diagnostic for each of the others. -/
def ofTriggerItems : Nat → List Json → List Trigger × List Fault
  | _, [] => ([], [])
  | index, item :: rest =>
    let (triggers, faults) := ofTriggerItems (index + 1) rest
    match Trigger.ofJson item with
    | .ok trigger => (trigger :: triggers, faults)
    | .error fault => (triggers, { fault with index := some index } :: faults)

def triggers (root : Node) : List Trigger × List Fault :=
  match root.given? "triggers" with
  | none => ([], [])
  | some (.arr items) => ofTriggerItems 0 items
  | some _ => ([], [.of .triggersNotArray])

end Declarations

/-- Loads a document of declarations. The only fault that stops the load is one of the templates'
shape, but the load goes on without end if the work on a declaration does. -/
def Board.ofDeclarations (chart : Chart) (root : Node) : Except (Stop Fault) Board := do
  let templates ← (Templates.ofJson (Keyed.get? root "templates")).mapError .failed
  let (loads, _) := PerCategory.scan (Declarations.ofCategory chart templates root) 0
  if !(loads.toList fun _ load => load.ends).all id then
    throw .endless
  let (triggers, triggerFaults) := Declarations.triggers root
  let board := ofLoads loads
  return { board with triggers, templates, diagnostics := board.diagnostics ++ triggerFaults }

end Storyboard
