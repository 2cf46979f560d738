import Storyboard.Declaration.Template
import Storyboard.Stage.Index
import Storyboard.Trigger.Basic

/-!
# Boards

A board is a document that has been loaded: a table of objects for each category, the armed
triggers, the templates, and the faults that were met on the way without stopping the load.

An element of a category array contributes outcomes: objects, and faults in place of objects.
Collecting outcomes keeps the first object of each id and turns every other outcome into one
diagnostic. It is done in an index, which comes to the same as collecting into a table
(`CategoryLoad.ofOutcomes_eq_collect`). An outcome that never comes is neither kept nor reported;
there is no board then, since the work does not get past it.
-/
namespace Storyboard

/-- What one variant of an array element came to, with the position of the element. -/
structure Outcome (category : Category) where
  index : Nat
  result : Except (Stop Fault) (StageObject category)

namespace Outcome

variable {category : Category}

/-- Whether the work on the variant comes to an end, with an object or with a fault. -/
def ends (outcome : Outcome category) : Bool :=
  match outcome.result with
  | .error .endless => false
  | _ => true

/-- The fault of an object whose id is taken. -/
def redefinition (category : Category) (index : Nat) (id : String) : Fault :=
  { (Fault.of (.redefinition id)).located category index with objectId := some id }

/-- Adds the objects among the outcomes in order, with a diagnostic for each outcome that ends and
adds none. -/
def collect {σ : Type} (add? : σ → StageObject category → Option σ) (held : σ) :
    List (Outcome category) → σ × List Fault
  | [] => (held, [])
  | outcome :: rest =>
    match outcome.result with
    | .error .endless => collect add? held rest
    | .error (.failed fault) =>
      let (final, faults) := collect add? held rest
      (final, fault.located category outcome.index :: faults)
    | .ok object =>
      match add? held object with
      | some larger => collect add? larger rest
      | none =>
        let (final, faults) := collect add? held rest
        (final, redefinition category outcome.index object.id :: faults)

/-- Collecting into two kinds of collection comes to the same if adding does. -/
theorem collect_view {σ τ : Type} {add? : σ → StageObject category → Option σ}
    {addTo? : τ → StageObject category → Option τ} {view : σ → τ}
    (same : ∀ held object, (add? held object).map view = addTo? (view held) object)
    (held : σ) (outcomes : List (Outcome category)) :
    (view (collect add? held outcomes).1, (collect add? held outcomes).2) =
      collect addTo? (view held) outcomes := by
  induction outcomes generalizing held with
  | nil => rfl
  | cons outcome rest ih =>
    obtain ⟨index, result⟩ := outcome
    cases result with
    | error stop =>
      cases stop with
      | failed fault => simp [collect, ← ih]
      | endless => simp [collect, ← ih]
    | ok object =>
      have step := same held object
      cases added : add? held object with
      | some larger =>
        rw [added] at step
        simp [collect, added, ← step, ← ih]
      | none =>
        rw [added] at step
        simp [collect, added, ← step, ← ih]

end Outcome

/-- What the array of a category came to: its table and its diagnostics. -/
structure CategoryLoad (category : Category) where
  table : Table category
  diagnostics : List Fault
  /-- Whether the work on every element comes to an end. -/
  ends : Bool

namespace CategoryLoad

variable {category : Category}

/-- The load that the outcomes of an array make. -/
def ofOutcomes (outcomes : List (Outcome category)) : CategoryLoad category :=
  let (index, diagnostics) := Outcome.collect ObjectIndex.add? ObjectIndex.empty outcomes
  ⟨index.toTable, diagnostics, outcomes.all Outcome.ends⟩

/-- The load of a category without an array. -/
def bare (diagnostics : List Fault) : CategoryLoad category := ⟨Table.empty, diagnostics, true⟩

theorem ofOutcomes_eq_collect (outcomes : List (Outcome category)) :
    ofOutcomes outcomes =
      ⟨(Outcome.collect Table.add? Table.empty outcomes).1,
        (Outcome.collect Table.add? Table.empty outcomes).2, outcomes.all Outcome.ends⟩ := by
  rw [← ObjectIndex.toTable_empty, ← Outcome.collect_view ObjectIndex.map_toTable_add?]
  rfl

end CategoryLoad

abbrev Tables := PerCategory Table

def Tables.empty : Tables := .ofFn fun _ => Table.empty

structure Board where
  tables : Tables
  triggers : List Trigger
  templates : Templates
  diagnostics : List Fault
deriving DecidableEq

namespace Board

def empty : Board := ⟨Tables.empty, [], Templates.empty, []⟩

instance : Inhabited Board := ⟨empty⟩

/-- The board that the loads of all categories make, with the category diagnostics in order. -/
def ofLoads (loads : PerCategory CategoryLoad) : Board :=
  { empty with
    tables := .ofFn fun category => (loads.get category).table
    diagnostics := (loads.toList fun _ load => load.diagnostics).flatten }

def objectCount (board : Board) : Nat :=
  (board.tables.toList fun _ table => table.size).foldr (· + ·) 0

/-- Lets go of everything but the diagnostics. -/
def cleared (board : Board) : Board := { empty with diagnostics := board.diagnostics }

end Board
end Storyboard
