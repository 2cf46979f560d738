import Storyboard.Fault
import Storyboard.Json.Printer

/-!
# Note selectors

A selector stands for the notes of a chart whose id, place, direction and kind it admits. What a
selector does not mention it does not restrict, except that only the known kinds are admitted.
-/
namespace Storyboard

structure Selector where
  first : NoteId
  last : NoteId
  direction : Option Int32
  minX : Binary64
  maxX : Binary64
  kinds : List Int32
deriving DecidableEq, Repr

namespace Selector

/-- The selector that mentions nothing. -/
def all : Selector where
  first := Int32.minValue
  last := Int32.maxValue
  direction := none
  minX := Binary64.largest true
  maxX := Binary64.largest false
  kinds := NoteKind.all.map NoteKind.code

def integerOf (field : String) (value : Json) : Except Fault Int32 :=
  match value.int32? with
  | some n => .ok n
  | none => .error ((Fault.of (.selectorNotInteger field)).within value.compact)

def numberOf (field : String) (value : Json) : Except Fault Binary64 :=
  match value.real? with
  | some x => .ok x.val
  | none => .error ((Fault.of (.selectorNotNumber field)).within value.compact)

/-- The value of a field that is present, or a default. -/
def fieldOr {α : Type} (spec : Node) (field : String) (default : α)
    (read : String → Json → Except Fault α) : Except Fault α :=
  match Keyed.get? spec field with
  | none => .ok default
  | some value => read field value

/-- The admitted kinds: one code or an array of codes. -/
def kindsOf (value : Option Json) : Except Fault (List Int32) :=
  match value with
  | none | some .null => .ok all.kinds
  | some (.arr items) => items.mapM (integerOf "type")
  | some value => do return [← integerOf "type" value]

def ofFields (spec : Node) : Except Fault Selector := do
  let first ← fieldOr spec "start" all.first integerOf
  let last ← fieldOr spec "end" all.last integerOf
  let direction ← fieldOr spec "direction" none fun field value =>
    (integerOf field value).map some
  let minX ← fieldOr spec "min_x" all.minX numberOf
  let maxX ← fieldOr spec "max_x" all.maxX numberOf
  let kinds ← kindsOf (Keyed.get? spec "type")
  return ⟨first, last, direction, minX, maxX, kinds⟩

def admits (selector : Selector) (note : Note) : Bool :=
  selector.kinds.contains note.kind
    && selector.first ≤ note.id && note.id ≤ selector.last
    && selector.minX.le note.x && note.x.le selector.maxX
    && selector.direction.all (· == note.direction)

/-- The ids of the admitted notes, in the order of the chart. -/
def ids (selector : Selector) (chart : Chart) : List NoteId :=
  (chart.notes.filter selector.admits).map Note.id

end Selector
end Storyboard
