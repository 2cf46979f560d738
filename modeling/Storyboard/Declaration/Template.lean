import Storyboard.Fault
import Storyboard.Json.Printer

/-!
# Templates

A template is a fragment of a declaration under a name. A declaration that refers to a template is
laid over the fragment, and a fragment that refers to a further template is laid over that one,
down to a fragment without a reference. A nearer level wins field by field; `states` is one field
like any other. The reference itself is used up.
-/
namespace Storyboard

structure Templates where
  fragments : Keyed Node
deriving DecidableEq

namespace Templates

def empty : Templates := ⟨[]⟩

instance : Inhabited Templates := ⟨empty⟩

def get? (templates : Templates) (id : String) : Option Node :=
  Keyed.get? templates.fragments id

def size (templates : Templates) : Nat := templates.fragments.length

def fragmentOf (entry : String × Json) : Except Fault (String × Node) :=
  match entry.2 with
  | .obj fragment => .ok (entry.1, fragment)
  | _ => .error (.of (.templateNotObject entry.1))

/-- Reads the `templates` field of a document. -/
def ofJson (value : Option Json) : Except Fault Templates :=
  match value with
  | none | some .null => .ok empty
  | some (.obj entries) =>
    (entries.mapM fragmentOf).map fun fragments => ⟨Keyed.ofList fragments⟩
  | some _ => .error (.of .templatesNotObject)

/-- Follows the references from the nearest fragment to the base. Every step visits another
template, so as many steps as there are templates are enough. -/
def follow (templates : Templates) :
    Nat → List String → Option Json → Except Fault (List Node)
  | _, _, none | _, _, some .null => .ok []
  | fuel, seen, some (.str id) =>
    if seen.contains id then .error (.of (.templateCycle id))
    else match templates.get? id with
      | none => .error (.of (.unknownTemplate id))
      | some fragment =>
        match fuel with
        | 0 => .error (.of (.templateCycle id))
        | fuel + 1 => do
          let below ← follow templates fuel (id :: seen) (Keyed.get? fragment "template")
          return fragment :: below
  | _, _, some value => .error ((Fault.of (.notString "template")).within value.compact)

/-- The fragments that a reference leads to, the nearest first. -/
def lineage (templates : Templates) (reference : Json) : Except Fault (List Node) :=
  follow templates templates.size [] (some reference)

/-- Lays fragments over each other, the first on top. -/
def layered (fragments : List Node) : Node :=
  fragments.foldr (fun fragment below => Keyed.overlay below (Keyed.erase "template" fragment)) []

/-- Lays a declaration over the templates it refers to. -/
def complete (templates : Templates) (node : Node) : Except Fault Node :=
  match Keyed.get? node "template" with
  | none => .ok node
  | some reference => do
    let fragments ← templates.lineage reference
    return Keyed.overlay (layered fragments) (Keyed.erase "template" node)

end Templates
end Storyboard
