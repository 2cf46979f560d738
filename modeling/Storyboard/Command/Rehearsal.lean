import Storyboard.Session
import Storyboard.Number.Fixed
import Storyboard.Text.Quoted

/-!
# Rehearsals

A rehearsal clears every note of a chart in the order of their start times, and of their ids where
the times are equal. Each note adds one to the combo and a fixed amount to the score. The report
has a line for each firing and closes with the number of firings and of triggers that are still
armed.
-/
namespace Storyboard

/-- The order in which the notes of a rehearsal are cleared. -/
def Note.playedLe (a b : Note) : Bool :=
  if a.startTime = b.startTime then a.id ≤ b.id else a.startTime.totalLe b.startTime

namespace Rehearsal

/-- The ids of the notes in the order in which they are cleared. -/
def order (chart : Chart) : List NoteId :=
  (chart.notes.mergeSort Note.playedLe).map Note.id

/-- Clears notes one after the other, counting on from a combo. -/
def play (scorePerNote : Int) :
    List NoteId → Nat → Session → Except SessionFault (List Trigger × Session)
  | [], _, session => .ok ([], session)
  | id :: rest, combo, session => do
    let combo := combo + 1
    let (firings, session) ← session.clear id combo (combo * scorePerNote)
    let (later, session) ← play scorePerNote rest combo session
    return (firings ++ later, session)

def firingLine (trigger : Trigger) : String :=
  let (time, note) : Binary64 × Int := match trigger.triggerer with
    | some note => (note.startTime, note.id.toInt)
    | none => (Binary64.zero false, -1)
  Text.padLeft 8 (time.fixed 3) ++ " | " ++ Text.padLeft 4 (toString note) ++ " | " ++
    Text.padRight 9 trigger.kind.title ++ " | +" ++ Text.quotedList trigger.spawn ++ " -" ++
    Text.quotedList trigger.destroy

/-- The lines above the firings. -/
def heading (board : Board) : List String :=
  [s!"Simulation Start ({board.objectCount} objects, {board.triggers.length} triggers)",
   "Time(s)  | Note | Trigger   | Spawn / Destroy",
   "---------|------|-----------|------------------"]

def closing (firings remaining : Nat) : String :=
  s!"Simulation End: {firings} firings, {remaining} triggers still armed"

/-- The lines of the report. -/
def report (board : Board) (chart : Chart) (scorePerNote : Int) :
    Except SessionFault (List String) := do
  let session ← Session.start board chart fun _ => .ok ()
  let (firings, session) ← play scorePerNote (order chart) 0 session
  return heading board ++ firings.map firingLine ++
    [closing firings.length session.board.triggers.length]

end Rehearsal
end Storyboard
