import Storyboard.Trigger.Basic

/-!
# Firing triggers

An event clears a note at a combo and a score. Every armed trigger that the event hits fires once,
in the order of the triggers, and leaves the armed ones when its uses are spent; a score trigger
fires only once in any case. What happens to one trigger does not depend on the others.
-/
namespace Storyboard

/-- A cleared note with the combo and the score after it. -/
structure ClearEvent where
  note : Note
  combo : Int
  score : Int
deriving DecidableEq, Repr

namespace Trigger

def isHitBy (trigger : Trigger) (event : ClearEvent) : Bool :=
  match trigger.kind with
  | .none => false
  | .noteClear => trigger.notes.contains event.note.id
  | .combo => event.combo == trigger.combo
  | .score => trigger.score ≤ event.score

/-- The trigger after it has fired once more. The counter starts over behind its largest value. -/
def fire (trigger : Trigger) (event : ClearEvent) : Trigger :=
  { trigger with triggerer := some event.note, currentUses := trigger.currentUses + 1 }

/-- Whether a trigger that has just fired is used up. -/
def isSpent (trigger : Trigger) : Bool :=
  trigger.uses == some trigger.currentUses.toNat || trigger.kind == .score

/-- The trigger after an event, if it is still armed. -/
def after? (trigger : Trigger) (event : ClearEvent) : Option Trigger :=
  if trigger.isHitBy event then
    let fired := trigger.fire event
    if fired.isSpent then none else some fired
  else some trigger

end Trigger

namespace Triggers

/-- Goes through armed triggers at an event, handing each firing to a handler and counting on. The
result is the triggers that stay armed, what the handler comes to, and the count. -/
def sweep {σ : Type} (handle : σ → Trigger → σ) (event : ClearEvent) :
    List Trigger → σ → Nat → List Trigger × σ × Nat
  | [], seen, count => ([], seen, count)
  | trigger :: rest, seen, count =>
    if trigger.isHitBy event then
      let used := trigger.fire event
      let (kept, seen, count) := sweep handle event rest (handle seen used) (count + 1)
      (if used.isSpent then kept else used :: kept, seen, count)
    else
      let (kept, seen, count) := sweep handle event rest seen count
      (trigger :: kept, seen, count)

/-- The triggers that an event makes fire, as they are after firing. -/
def firings (armed : List Trigger) (event : ClearEvent) : List Trigger :=
  (armed.filter (·.isHitBy event)).map (·.fire event)

/-- The triggers that are armed after an event. -/
def after (armed : List Trigger) (event : ClearEvent) : List Trigger :=
  armed.filterMap (·.after? event)

/-- The firings of a run of events in order, and the triggers that are armed at its end. -/
def run (armed : List Trigger) : List ClearEvent → List Trigger × List Trigger
  | [] => ([], armed)
  | event :: rest =>
    let (later, remaining) := run (after armed event) rest
    (firings armed event ++ later, remaining)

end Triggers
end Storyboard
