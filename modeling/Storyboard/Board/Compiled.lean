import Storyboard.Board.Basic

/-!
# Compiled boards

The compiled form of a board holds the tables and nothing else: every object with its resolved
states. It is loaded as it is, without templates, times or triggers. All six arrays must be there
and all their elements must have the right shape; a repeated id costs only the later object.
-/
namespace Storyboard

namespace Compiled

/-- The objects of a category array. -/
def objects (category : Category) (root : Node) : Except Fault (List (StageObject category)) :=
  match Keyed.get? root category.key with
  | some (.arr items) =>
    items.zipIdx.mapM fun (item, index) =>
      match StageObject.read category (.ofJson item) with
      | .ok object => .ok object
      | .error mismatch => .error ((Fault.of (.badObject mismatch)).located category index)
  | _ => .error { Fault.of (.missingArray category) with category := some category }

def ofCategory (root : Node) (category : Category) : Except Fault (CategoryLoad category) :=
  (objects category root).map fun found =>
    .ofOutcomes (found.zipIdx.map fun (object, index) => ⟨index, .ok object⟩)

end Compiled

/-- Loads a compiled document. -/
def Board.ofCompiled (root : Node) : Except Fault Board :=
  (PerCategory.tryEach (Compiled.ofCategory root)).map Board.ofLoads

def Table.toJson {category : Category} (table : Table category) : Json :=
  .arr (table.objects.map StageObject.toJson)

/-- The fields of a written board. -/
def Board.toFields (board : Board) : List (String × Json) :=
  ("compiled", .bool true) ::
    board.tables.toList fun category table => (category.key, table.toJson)

/-- The compiled form: what is written for the board, without the nulls. -/
def Board.compile (board : Board) : Json := (Json.ofFields board.toFields).stripped

end Storyboard
