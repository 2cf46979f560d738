import Storyboard.Declaration.Fanout
import Storyboard.Declaration.Template

/-!
# Outlines of nested declarations

The declarations nested below a declaration, fanned out and merged with their templates, form an
ordered tree. An outline is that tree in the form "first what is below, then what comes next", so
that walking it visits the declarations in the order of the document. All siblings are fanned out
before the first of them is merged, and where the tree cannot be built any further the outline
breaks off with the fault.

An outline unfolds as it is walked: what is below a declaration and what comes next are built only
when they are asked for. A few templates can stand for a tree of any size, and a walk that ends
early, at a fault of its own, does not pay for the rest.

A template may refer to another one in its nested declarations, so the tree need not be smaller
than the document. A path that is longer than the document and its templates are deep comes back
to a place where it has been, and such a tree has no end. There the outline breaks off as well, and
what it breaks off with is no fault: a walk that comes so far does not end.
-/
namespace Storyboard

inductive Outline where
  | done
  | broken (stop : Stop Fault)
  | entry (node : Node) (below next : Unit → Outline)

namespace Outline

/-- The declarations in the order of the outline. -/
def nodes : Outline → List Node
  | done | broken _ => []
  | entry node below next => node :: ((below ()).nodes ++ (next ()).nodes)

/-- The declarations that one element of `states` stands for. -/
def ofItem (chart : Chart) (item : Json) : Except Fault (List Node) :=
  match item with
  | .obj child => fanOut chart child
  | _ => .error ((Fault.of .stateNotObject).within item.compact)

/-- The declarations that are nested immediately in one, fanned out but not merged. -/
def children (chart : Chart) (node : Node) : Except Fault (List Node) :=
  match Keyed.get? node "states" with
  | none | some .null => .ok []
  | some (.arr items) => (items.mapM (ofItem chart)).map List.flatten
  | some value => .error ((Fault.of (.notArray "states")).within value.compact)

/-- Merges siblings and puts below each what belongs there. -/
def siblings (templates : Templates) (below : Node → Outline) : List Node → Outline
  | [] => done
  | child :: rest =>
    match templates.complete child with
    | .error fault => broken (.failed fault)
    | .ok node => entry node (fun _ => below node) (fun _ => siblings templates below rest)

/-- The outline below a declaration, with room for a number of levels. -/
def nested (chart : Chart) (templates : Templates) : Nat → Node → Outline
  | 0, node =>
    match children chart node with
    | .error fault => broken (.failed fault)
    | .ok [] => done
    | .ok (_ :: _) => broken .endless
  | levels + 1, node =>
    match children chart node with
    | .error fault => broken (.failed fault)
    | .ok nodes => siblings templates (nested chart templates levels) nodes

/-- As many levels as the declaration and all templates are deep. -/
def levels (templates : Templates) (node : Node) : Nat :=
  Json.depthOfFields node +
    (templates.fragments.map fun fragment => Json.depthOfFields fragment.2).foldr (· + ·) 0 + 1

/-- The outline below a declaration. -/
def ofNode (chart : Chart) (templates : Templates) (node : Node) : Outline :=
  nested chart templates (levels templates node) node

end Outline
end Storyboard
