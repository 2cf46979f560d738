import Storyboard.Board.Reading
import Storyboard.Chart.Reading
import Storyboard.Command.Inspection
import Storyboard.Command.Rehearsal

/-!
# Commands

A command reads a chart and a document and either writes the compiled board, lists what the board
holds, or rehearses it. What a command does is a function of the contents of the files it reads;
the lines it prints and the file it writes are its result.
-/
namespace Storyboard

/-- Why something could not be done, and the reason behind it where there is one. -/
structure Failure where
  message : String
  reason : Option String := none
deriving DecidableEq, Repr

/-- The text of a file, or why there is none. -/
abbrev Contents := Except FileTrouble String

/-- Reads a chart from the contents of a file. -/
def Chart.ofFile (path : String) (contents : Contents) : Except Failure Chart :=
  match contents with
  | .ok text =>
    match ofText text with
    | .ok chart => .ok chart
    | .error _ => .error { message := s!"failed to parse chart json: {path}" }
  | .error .notText => .error { message := s!"failed to parse chart json: {path}" }
  | .error trouble =>
    .error { message := s!"failed to read chart: {path}", reason := some trouble.message }

/-- The failure of a step that met a fault in the document. -/
def Failure.ofFault (message : String) (fault : Fault) : Failure :=
  { message, reason := some fault.summary }

/-- Loads a board for a host from the contents of a file. -/
def Board.load (chart : Chart) (path : String) (contents : Contents) :
    Except (Stop Failure) Board :=
  (Board.ofFile chart false path contents).mapError
    (Stop.map (.ofFault s!"failed to load storyboard: {path}"))

inductive Command where
  | compile (output : Option String) (strict : Bool)
  | inspect
  | simulate (scorePerNote : Int)
deriving DecidableEq, Repr

structure Invocation where
  command : Command
  input : String
  chart : Option String
deriving DecidableEq, Repr

/-- What a command leaves behind: the lines it prints, and the file it writes with its text. -/
structure Effect where
  lines : List String
  file : Option (String × String) := none
deriving DecidableEq, Repr

/-- The file name of a path with another extension. A dot in front of the name starts no
extension. -/
def withExtension (extension path : String) : String :=
  let name := (path.toList.reverse.takeWhile (· != '/')).reverse
  let folder := path.toList.take (path.toList.length - name.length)
  if name = [] ∨ name = ['.'] ∨ name = ['.', '.'] then path
  else
    let stem := (name.reverse.dropWhile (· != '.')).drop 1 |>.reverse
    let stem := if stem.isEmpty then name else stem
    String.ofList (folder ++ stem) ++ "." ++ extension

namespace Invocation

def strict (invocation : Invocation) : Bool :=
  match invocation.command with
  | .compile _ strict => strict
  | _ => false

/-- The failure to write a file. -/
def writeFailure (path : String) (trouble : FileTrouble) : Failure :=
  .ofFault s!"failed to write: {path}" (.of (.unwritableFile trouble))

/-- Runs a command on the files it names. -/
def run (read : String → Contents) (invocation : Invocation) : Except (Stop Failure) Effect := do
  let chart ← match invocation.chart with
    | none => .ok Chart.empty
    | some path => (Chart.ofFile path (read path)).mapError .failed
  let loaded := Board.ofFile chart invocation.strict invocation.input (read invocation.input)
  let board ← loaded.mapError (Stop.map (.ofFault s!"compile failed: {invocation.input}"))
  match invocation.command with
  | .compile output _ =>
    let path := output.getD (withExtension "compiled.json" invocation.input)
    return { lines := [], file := some (path, board.compile.pretty) }
  | .inspect => return { lines := Inspection.report board }
  | .simulate scorePerNote =>
    match Rehearsal.report board chart scorePerNote with
    | .ok lines => return { lines }
    | .error fault =>
      .error (.failed
        { message := (fault.chain.head?).getD "", reason := (fault.chain.drop 1).head? })

end Invocation
end Storyboard
