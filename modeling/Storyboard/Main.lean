import Storyboard.Command.Arguments

/-!
# The command line program

Reads the named files, runs the command, prints its lines and writes its file.
-/
namespace Storyboard

/-- Why the system refused a file. -/
def FileTrouble.ofError (error : IO.Error) : FileTrouble :=
  match error with
  | .noFileOrDirectory .. => .notFound
  | .inappropriateType _ 20 _ => .notDirectory
  | .inappropriateType .. => .directory
  | .invalidArgument _ 36 _ => .nameTooLong
  | error => .other (toString error)

def readContents (path : String) : IO Contents := do
  match ← (IO.FS.readBinFile path).toBaseIO with
  | .error error => return .error (.ofError error)
  | .ok bytes =>
    match String.fromUTF8? bytes with
    | some text => return .ok text
    | none => return .error .notText

def reportFailure (failure : Failure) : IO UInt32 := do
  IO.eprintln ("Error: " ++ failure.message)
  if let some reason := failure.reason then
    IO.eprintln ("\nCaused by:\n    " ++ reason)
  return 1

def perform (invocation : Invocation) : IO UInt32 := do
  let input ← readContents invocation.input
  let chart ← match invocation.chart with
    | some path => readContents path
    | none => pure (.error .notFound)
  let read := fun path => if some path = invocation.chart then chart else input
  match invocation.run read with
  | .error (.failed failure) => reportFailure failure
  -- work without end exhausts the stack, and the system aborts the process
  | .error .endless => return 134
  | .ok effect =>
    for line in effect.lines do
      IO.println line
    match effect.file with
    | none => return 0
    | some (path, text) =>
      match ← (IO.FS.writeFile path text).toBaseIO with
      | .ok () => return 0
      | .error error => reportFailure (Invocation.writeFailure path (.ofError error))

end Storyboard

def main (arguments : List String) : IO UInt32 := do
  match Storyboard.Invocation.ofArguments arguments with
  | .ok invocation => Storyboard.perform invocation
  | .error fault =>
    IO.eprintln ("error: " ++ fault.message)
    return 2
