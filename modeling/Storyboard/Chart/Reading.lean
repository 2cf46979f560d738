import Storyboard.Chart.Basic
import Storyboard.Json.Record

/-!
# Reading charts

A chart is a record with one column, the list of its notes. The place and the direction of a note
may be left out; everything else of a note must be given.
-/
namespace Storyboard

open Json

namespace Note

def columns : List Column :=
  [⟨"id", Int32, Reader.int32, none⟩,
   ⟨"type", Int32, Reader.int32, none⟩,
   ⟨"x", Finite64, Reader.real, some Finite64.zero⟩,
   ⟨"direction", Int32, Reader.int32, some 0⟩,
   ⟨"intro_time", Finite64, Reader.real, none⟩,
   ⟨"start_time", Finite64, Reader.real, none⟩,
   ⟨"end_time", Finite64, Reader.real, none⟩]

def ofRecord : Record columns → Note
  | (id, kind, x, direction, introTime, startTime, endTime, ()) =>
    ⟨id, kind, x.val, direction, introTime.val, startTime.val, endTime.val⟩

def read : Reader Note := fun draft =>
  (Record.read "struct ChartNote" columns draft).map ofRecord

end Note

namespace Chart

def columns : List Column :=
  [⟨"note_list", List Note, Reader.list Note.read, none⟩]

def ofRecord : Record columns → Chart
  | (notes, ()) => ofNotes notes

/-- The chart as it is written. -/
def toRecord (chart : Chart) : Record columns := (chart.notes, ())

def read : Reader Chart := fun draft =>
  (Record.read "struct ChartFile" columns draft).map ofRecord

def ofJson (value : Json) : Except Mismatch Chart := read (.ofJson value)

/-- Why a text is no chart: either the text is not JSON up to the place where that shows, or its
value has the wrong shape. -/
inductive TextFault where
  | badText
  | badShape (mismatch : Mismatch)

/-- Reads a chart from left to right; the first problem decides. An array that goes on behind the
last column of its record counts as bad text. -/
def ofText (text : String) : Except TextFault Chart :=
  let (draft, alone) := Draft.ofText text
  match read draft with
  | .ok chart => if alone then .ok chart else .error .badText
  | .error .notJson | .error (.tooMany _) => .error .badText
  | .error mismatch => .error (.badShape mismatch)

end Chart
end Storyboard
