import Storyboard.Session

/-!
# Performances

A session together with the renderer that it is shown by. At each cleared note the armed triggers
are gone through once: a trigger that is hit is used, shown to the renderer and counted, and is kept
unless it is spent. The count answers the call. A note that is not in the chart is answered with a
fault.
-/
namespace Storyboard

/-- How a renderer sets itself up for a board, and what it does at a firing. -/
structure Renderer (ρ : Type) where
  setUp : ρ → Board → Except String ρ
  onTrigger : ρ → Trigger → ρ

/-- A renderer that is set up: its state, and what it has been shown since, in order. -/
structure Screen (ρ : Type) where
  state : ρ
  shown : List Trigger

def Renderer.present {ρ : Type} (renderer : Renderer ρ) (screen : Screen ρ) (trigger : Trigger) :
    Screen ρ :=
  ⟨renderer.onTrigger screen.state trigger, screen.shown ++ [trigger]⟩

/-- A call that clears a note. -/
structure ClearCall where
  id : NoteId
  combo : Int
  score : Int
deriving DecidableEq, Repr

structure Performance (ρ : Type) where
  session : Session
  screen : Screen ρ

namespace Performance

variable {ρ : Type} (renderer : Renderer ρ)

def start (board : Board) (chart : Chart) (state : ρ) : Except SessionFault (Performance ρ) :=
  match renderer.setUp state board with
  | .ok ready => .ok ⟨⟨board, chart⟩, ⟨ready, []⟩⟩
  | .error reason => .error (.renderer reason)

/-- Answers one call. -/
def clear (performance : Performance ρ) (call : ClearCall) :
    Except SessionFault Nat × Performance ρ :=
  let session := performance.session
  match session.chart.note? call.id with
  | none => (.error (.unknownNote call.id), performance)
  | some note =>
    let (armed, screen, count) := Triggers.sweep renderer.present ⟨note, call.combo, call.score⟩
      session.board.triggers performance.screen 0
    (.ok count, ⟨{ session with board := { session.board with triggers := armed } }, screen⟩)

/-- Answers calls one after the other, whatever the answers are. -/
def run (performance : Performance ρ) :
    List ClearCall → List (Except SessionFault Nat) × Performance ρ
  | [] => ([], performance)
  | call :: rest =>
    let (answer, next) := clear renderer performance call
    let (answers, last) := run next rest
    (answer :: answers, last)

end Performance
end Storyboard
