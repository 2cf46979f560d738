import Storyboard.Board.Basic
import Storyboard.Trigger.Engine

/-!
# Sessions

A session plays a board against a chart. It starts once the renderer has set itself up; after that
each cleared note is looked up in the chart and passed to the triggers, and the renderer is shown
every firing. A note that is not in the chart changes nothing.
-/
namespace Storyboard

structure Session where
  board : Board
  chart : Chart

inductive SessionFault where
  | renderer (reason : String)
  | unknownNote (id : NoteId)
deriving DecidableEq, Repr

/-- The fault and its reasons, the outermost text first. -/
def SessionFault.chain : SessionFault → List String
  | renderer reason => ["storyboard renderer failed to initialize", reason]
  | unknownNote id => [s!"cleared note {id.toInt} is not in the chart"]

namespace Session

def start (board : Board) (chart : Chart) (setUp : Board → Except String Unit) :
    Except SessionFault Session :=
  match setUp board with
  | .ok () => .ok ⟨board, chart⟩
  | .error reason => .error (.renderer reason)

/-- Clears a note. The result is the firings that the renderer is shown, and the session after
them. -/
def clear (session : Session) (id : NoteId) (combo score : Int) :
    Except SessionFault (List Trigger × Session) :=
  match session.chart.note? id with
  | none => .error (.unknownNote id)
  | some note =>
    let event : ClearEvent := ⟨note, combo, score⟩
    let armed := session.board.triggers
    .ok (Triggers.firings armed event,
      { session with board := { session.board with triggers := Triggers.after armed event } })

end Session
end Storyboard
