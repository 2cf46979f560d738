import Storyboard.Board.Declarations
import Storyboard.Board.Compiled

/-!
# Reading boards

A document is an object, either of declarations or, if it says so, in compiled form. A strict load
takes the first diagnostic as a fault. Reading a document of declarations need not come to an end.
-/
namespace Storyboard

namespace Board

def isCompiled (root : Node) : Bool :=
  (Keyed.get? root "compiled").bind Json.bool? == some true

/-- The board itself, or its first diagnostic if the load is strict. -/
def checked (strict : Bool) (board : Board) : Except Fault Board :=
  match strict, board.diagnostics with
  | true, first :: _ => .error first
  | _, _ => .ok board

def ofJson (chart : Chart) (strict : Bool) (document : Json) : Except (Stop Fault) Board :=
  match document with
  | .obj root => do
    let board ←
      if isCompiled root then (ofCompiled root).mapError .failed else ofDeclarations chart root
    (checked strict board).mapError .failed
  | _ => .error (.failed (.of .rootNotObject))

def ofText (chart : Chart) (strict : Bool) (text : String) : Except (Stop Fault) Board :=
  match Json.ofText? text with
  | some document => ofJson chart strict document
  | none => .error (.failed (.of .textNotJson))

/-- Reads a board from the contents of a file; every fault names the file. -/
def ofFile (chart : Chart) (strict : Bool) (path : String)
    (contents : Except FileTrouble String) : Except (Stop Fault) Board :=
  match contents with
  | .error trouble => .error (.failed ((Fault.of (.unreadableFile trouble)).inFile path))
  | .ok text => (ofText chart strict text).mapError (Stop.map fun fault => fault.inFile path)

end Board
end Storyboard
