import Storyboard.Board.Basic
import Storyboard.Number.Fixed
import Storyboard.Text.Quoted

/-!
# Inspections

An inspection lists what a board holds: the objects of each category with the times of their
states, the triggers, and the diagnostics. Categories without objects are left out.
-/
namespace Storyboard

namespace Inspection

def timeText (time : Binary64) : String :=
  if time = never then "never" else time.fixed 3

def objectLine {category : Category} (object : StageObject category) : String :=
  let target := match object.targetId with
    | some id => " target=" ++ id
    | none => ""
  let parent := match object.parentId with
    | some id => " parent=" ++ id
    | none => ""
  "  " ++ object.id ++ target ++ parent ++ " states=" ++
    Text.bracketed (object.states.map fun state => timeText state.time)

def tableLines (category : Category) (table : Table category) : List String :=
  if table.objects.isEmpty then []
  else s!"[{category.key}] {table.size}" :: table.objects.map objectLine

def triggerLine (trigger : Trigger) (index : Nat) : String :=
  let uses := match trigger.uses with
    | some n => toString n
    | none => "unlimited"
  let notes := Text.bracketed (trigger.notes.map fun id => toString id.toInt)
  s!"  #{index} {trigger.kind.title} uses={uses} notes={notes} combo={trigger.combo} " ++
    s!"score={trigger.score} spawn={Text.quotedList trigger.spawn} " ++
    s!"destroy={Text.quotedList trigger.destroy}"

def diagnosticLine (fault : Fault) : String :=
  let category := match fault.category with
    | some category => category.key
    | none => "-"
  let index := match fault.index with
    | some index => toString index
    | none => "-"
  s!"  {category}[{index}] {fault.summary}"

/-- The lines of the report. -/
def report (board : Board) : List String :=
  (board.tables.toList tableLines).flatten ++
    s!"[triggers] {board.triggers.length}" ::
    (board.triggers.zipIdx.map fun (trigger, index) => triggerLine trigger index) ++
    s!"[diagnostics] {board.diagnostics.length}" ::
    board.diagnostics.map diagnosticLine

end Inspection
end Storyboard
