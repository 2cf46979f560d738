import Storyboard.Proofs.Descent
import Storyboard.Proofs.Differing

/-!
# Declarations that unfold side by side

Two declarations that differ in what is nested become the same states if they unfold to the same
fields on every level. So a way of nesting differently is harmless if unfolding keeps it: where two
declarations differ in this way, what is nested in them comes to as many declarations, in the same
order, and those differ in this way again once they are laid over their templates. The walks then
go along side by side, whatever room each outline has.

Main statement: `Timeline.build_of_differ`.
-/
namespace Storyboard

open Result (Matches)

variable {category : Category} {chart : Chart} {templates : Templates} {node other : Node}
  {nested : Option Json → Option Json → Prop}

/-- A way of nesting differently is kept where declarations are unfolded. -/
def KeptByUnfolding (chart : Chart) (templates : Templates)
    (nested : Option Json → Option Json → Prop) : Prop :=
  ∀ node other : Node, node.Differ nested other →
    Matches (List.Forall₂ fun variant twin =>
        Matches (Node.Differ nested) (templates.complete variant) (templates.complete twin))
      (Outline.children chart node) (Outline.children chart other)

namespace Outline

/-- A walk along siblings makes the same states, if going below them does. -/
theorem states_siblings_of_differ {below : Node → Outline} {rootTime : Option Binary64}
    (deeper : ∀ node other : Node, node.Differ nested other → ∀ cursor : Cursor category,
      (below node).states chart rootTime cursor = (below other).states chart rootTime cursor)
    {variants twins : List Node} (merged : List.Forall₂ (fun variant twin =>
      Matches (Node.Differ nested) (templates.complete variant) (templates.complete twin))
      variants twins) (cursor : Cursor category) :
    (siblings templates below variants).states chart rootTime cursor =
      (siblings templates below twins).states chart rootTime cursor := by
  induction merged generalizing cursor with
  | nil => rfl
  | @cons variant twin _ _ first _ ih =>
    rw [siblings, siblings]
    generalize templates.complete variant = one, templates.complete twin = two at first
    cases first with
    | error fault => rfl
    | ok differ =>
      -- the steps of a walk look at fields that the two share
      simp only [states_entry, Cursor.into, Cursor.past, Cursor.place, differ.ownNote_eq,
        differ.fields "time" (by decide), differ.follow_eq, deeper _ _ differ, ih]

/-- What is nested in the two becomes the same states, however many levels there is room for. -/
theorem states_nested_of_differ (kept : KeptByUnfolding chart templates nested)
    (differ : node.Differ nested other) (levels : Nat) (rootTime : Option Binary64)
    (cursor : Cursor category) :
    (Outline.nested chart templates levels node).states chart rootTime cursor =
      (Outline.nested chart templates levels other).states chart rootTime cursor := by
  induction levels generalizing node other cursor with
  | zero =>
    -- without room, all that matters is whether anything is nested, and the same number is
    have unfolded := kept node other differ
    rw [Outline.nested, Outline.nested]
    generalize children chart node = one, children chart other = two at unfolded
    cases unfolded with
    | error fault => rfl
    | ok same =>
      cases same with
      | nil => rfl
      | cons _ _ => rfl
  | succ levels ih =>
    have unfolded := kept node other differ
    rw [Outline.nested, Outline.nested]
    generalize children chart node = one, children chart other = two at unfolded
    cases unfolded with
    | error fault => rfl
    | ok same => exact states_siblings_of_differ (fun _ _ => ih) same cursor

/-- The outlines of the two need not have room for the same number of levels, but the room makes no
difference. -/
theorem states_ofNode_of_differ (kept : KeptByUnfolding chart templates nested)
    (differ : node.Differ nested other) (rootTime : Option Binary64) (cursor : Cursor category) :
    (ofNode chart templates node).states chart rootTime cursor =
      (ofNode chart templates other).states chart rootTime cursor := by
  -- with the room of the larger of the two, the walks go along step by step
  rw [← states_nested_of_levels_le (Nat.le_max_left _ (levels templates other)),
    ← states_nested_of_levels_le (Nat.le_max_right (levels templates node) _),
    states_nested_of_differ kept differ]

/-- An array in which one element takes the place of another fans out to what the array did, if the
element does. -/
theorem items_of_replaced {related : Node → Node → Prop} (same : ∀ node, related node node)
    (front back : List Json) {item twin : Json}
    (replaced : Matches (List.Forall₂ related) (ofItem chart item) (ofItem chart twin)) :
    Matches (List.Forall₂ related)
      (((front ++ item :: back).mapM (ofItem chart)).map List.flatten)
      (((front ++ twin :: back).mapM (ofItem chart)).map List.flatten) := by
  have alone (items : List Json) : List.Forall₂ (fun a b => Matches (List.Forall₂ related)
      (ofItem chart a) (ofItem chart b)) items items :=
    List.forall₂_same.2 fun item _ =>
      .refl (fun nodes => List.forall₂_same.2 fun node _ => same node) _
  have each := List.rel_append (alone front) (.cons replaced (alone back))
  exact (Matches.mapM each).map fun lists others related => List.rel_flatten related

end Outline

/-- **Unfolding side by side.** Declarations that differ in a way that unfolding keeps become the
same states and bind the same, or fail with the same fault. -/
theorem Timeline.build_of_differ (kept : KeptByUnfolding chart templates nested)
    (differ : node.Differ nested other) (binding : Binding) :
    build category chart templates binding node = build category chart templates binding other := by
  simp only [build, inOrder_eq, Cursor.ofRoot, differ.ownNote_eq,
    differ.fields "time" (by decide), differ.follow_eq, Outline.states_ofNode_of_differ kept differ]

end Storyboard
