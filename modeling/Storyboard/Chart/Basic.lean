import Storyboard.Number.Binary64

/-!
# Charts

A chart is the list of notes that a storyboard is timed by, in increasing order of their ids.
Notes with one id keep the order in which they were given, and the last of them is the one an id
refers to.
-/
namespace Storyboard

abbrev NoteId := Int32

inductive NoteKind where
  | click
  | hold
  | longHold
  | dragHead
  | dragChild
  | flick
  | chainDragHead
  | chainDragChild
deriving DecidableEq, Repr

namespace NoteKind

def all : List NoteKind :=
  [click, hold, longHold, dragHead, dragChild, flick, chainDragHead, chainDragChild]

/-- The code that stands for the kind in a chart. -/
def code : NoteKind → Int32
  | click => 0
  | hold => 1
  | longHold => 2
  | dragHead => 3
  | dragChild => 4
  | flick => 5
  | chainDragHead => 6
  | chainDragChild => 7

def name : NoteKind → String
  | click => "Click"
  | hold => "Hold"
  | longHold => "LongHold"
  | dragHead => "DragHead"
  | dragChild => "DragChild"
  | flick => "Flick"
  | chainDragHead => "CDragHead"
  | chainDragChild => "CDragChild"

end NoteKind

/-- One note of a chart. Its kind is kept as a code, which may be unknown. -/
structure Note where
  id : NoteId
  kind : Int32
  x : Binary64
  direction : Int32
  introTime : Binary64
  startTime : Binary64
  endTime : Binary64
deriving DecidableEq, Repr

/-- The order of the notes in a chart. -/
def Note.idLe (a b : Note) : Bool := a.id ≤ b.id

theorem Note.idLe_trans (a b c : Note) (first : a.idLe b = true) (second : b.idLe c = true) :
    a.idLe c = true := by
  simp only [Note.idLe, decide_eq_true_eq] at *
  exact Int32.le_trans first second

theorem Note.idLe_total (a b : Note) : (a.idLe b || b.idLe a) = true := by
  simp only [Note.idLe, Bool.or_eq_true, decide_eq_true_eq]
  exact Int32.le_total a.id b.id

structure Chart where
  notes : List Note
  sorted : notes.Pairwise fun a b => a.idLe b = true

namespace Chart

/-- The chart of some notes; the sort is stable. -/
def ofNotes (notes : List Note) : Chart where
  notes := notes.mergeSort Note.idLe
  sorted := List.pairwise_mergeSort Note.idLe_trans Note.idLe_total notes

def empty : Chart := ⟨[], .nil⟩

instance : Inhabited Chart := ⟨empty⟩

/-- The note an id refers to: the last one that has it. -/
def note? (chart : Chart) (id : NoteId) : Option Note :=
  (chart.notes.filter fun note => note.id = id).getLast?

end Chart
end Storyboard
