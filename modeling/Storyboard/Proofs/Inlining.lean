import Storyboard.Proofs.Lineage
import Storyboard.Proofs.Positions
import Storyboard.Proofs.Products

/-!
# Inlining templates

Declarations are fanned out before they are laid over their templates, so a template's arrays and
its selectors never fan out. Where a template brings none, the declaration that is laid over it can
stand in its place: it fans out to itself, as the declaration did, and laying it over templates once
more changes nothing.

Main statement: `Timeline.build_inlined`.
-/
namespace Storyboard

open Result (Matches)

variable {category : Category} {chart : Chart} {templates : Templates}
  {declaration merged node : Node}

/-- Two values of `states`, in the second of which a declaration that is nested at some depth is
laid over its templates, which leave nothing to fan out. -/
inductive Inlines (chart : Chart) (templates : Templates) : Option Json → Option Json → Prop
  | refl (value : Option Json) : Inlines chart templates value value
  | here (front back : List Json) {declaration merged : Node}
      (completed : templates.complete declaration = .ok merged)
      (single : fanOut chart merged = .ok [merged]) :
      Inlines chart templates (some (.arr (front ++ .obj declaration :: back)))
        (some (.arr (front ++ .obj merged :: back)))
  | deeper (front back : List Json) {child : Node} {nested : Json}
      (inside : Inlines chart templates (Keyed.get? child "states") (some nested)) :
      Inlines chart templates (some (.arr (front ++ .obj child :: back)))
        (some (.arr (front ++ .obj (Keyed.insert "states" nested child) :: back)))

/-! ## One declaration -/

/-- Where the templates leave nothing to fan out, there has been nothing before. -/
theorem fanOut_of_complete (completed : templates.complete declaration = .ok merged)
    (single : fanOut chart merged = .ok [merged]) :
    fanOut chart declaration = .ok [declaration] := by
  obtain ⟨times, notes⟩ := fanOut_eq_self_iff.1 single
  refine fanOut_eq_self_iff.2 ⟨?_, ?_⟩
  · intro field member items given
    have kept : field ≠ "template" := by
      rintro rfl
      exact absurd member (by decide)
    -- a field of its own is not hidden by the templates, so it would be there afterwards
    exact times field member items (templates.get?_of_given completed kept given)
  · cases given : Keyed.get? declaration "note" with
    | none => rfl
    | some value => rw [← notes, templates.get?_of_given completed (by decide) given]

theorem complete_of_complete (completed : templates.complete declaration = .ok merged) :
    templates.complete merged = .ok merged :=
  Templates.complete_of_bare (Templates.template_of_complete completed)

/-! ## Nested declarations -/

namespace Inlines

theorem hides {upper lower : Option Json} (inlines : Inlines chart templates upper lower)
    (below : Option Json) : Inlines chart templates (upper.or below) (lower.or below) := by
  cases inlines with
  | refl value => exact .refl _
  | here front back completed single => exact .here front back completed single
  | deeper front back inside => exact .deeper front back inside

/-- Variants become declarations in which a template is inlined if they do so when they are laid
over their templates. -/
def Becomes (chart : Chart) (templates : Templates) (variant twin : Node) : Prop :=
  Matches (Node.Differ (Inlines chart templates)) (templates.complete variant)
    (templates.complete twin)

theorem Becomes.of_differ {variant twin : Node}
    (differ : variant.Differ (Inlines chart templates) twin) :
    Becomes chart templates variant twin :=
  differ.complete fun _ _ below inlines => inlines.hides below

theorem Becomes.refl (node : Node) : Becomes chart templates node node :=
  .of_differ ⟨fun _ _ => rfl, .refl _⟩

/-- Inlining is kept by unfolding: the declaration and what it becomes over its templates fan out to
themselves, and become the same over the templates. -/
theorem kept : KeptByUnfolding chart templates (Inlines chart templates) := by
  intro node other differ
  have nested := differ.nested
  unfold Outline.children
  generalize Keyed.get? node "states" = value, Keyed.get? other "states" = inlined at nested
  cases nested with
  | refl value => exact .refl (fun nodes => List.forall₂_same.2 fun node _ => Becomes.refl node) _
  | @here front back declaration merged completed single =>
    -- both stand for themselves, and the templates add nothing to the second
    have first : Becomes chart templates declaration merged := by
      rw [Becomes, completed, complete_of_complete completed]
      exact .ok ⟨fun _ _ => rfl, .refl _⟩
    apply Outline.items_of_replaced Becomes.refl
    rw [Outline.ofItem, Outline.ofItem, fanOut_of_complete completed single, single]
    exact .ok (.cons first .nil)
  | deeper front back inside =>
    -- the element differs in what is nested only, and so do its variants
    apply Outline.items_of_replaced Becomes.refl
    exact (Node.Differ.of_insert inside).fanOut.imp fun _ _ same =>
      same.imp fun _ _ => Becomes.of_differ

/-- Putting a declaration that is laid over its templates in the place of the declaration inlines
the templates. -/
theorem exists_editAt {position : Nat} {path : List Nat}
    (found : node.nestedAt (position :: path) = some declaration)
    (completed : templates.complete declaration = .ok merged)
    (single : fanOut chart merged = .ok [merged]) :
    ∃ nested, node.editAt (fun _ => merged) (position :: path) =
        Keyed.insert "states" nested node ∧
      Inlines chart templates (Keyed.get? node "states") (some nested) := by
  induction path generalizing node position with
  | nil =>
    obtain ⟨front, child, back, rfl, given, same⟩ := Node.nestedAt_cons_iff.1 found
    cases same
    rw [Node.editAt_cons given, given]
    exact ⟨_, rfl, .here front back completed single⟩
  | cons next path ih =>
    obtain ⟨front, child, back, rfl, given, below⟩ := Node.nestedAt_cons_iff.1 found
    obtain ⟨nested, same, inside⟩ := ih below
    rw [Node.editAt_cons given, given, same]
    exact ⟨_, rfl, .deeper front back inside⟩

end Inlines

namespace Timeline

/-- **Templates can be inlined.** A declaration that is nested at any position can be replaced by
what it becomes over its templates, if that leaves nothing to fan out. The states and the binding
in the end are the same, or the fault is. -/
theorem build_inlined (category : Category) (chart : Chart) (templates : Templates)
    (binding : Binding) (root : Node) {path : List Nat} {declaration merged : Node}
    (nested : path ≠ []) (found : root.nestedAt path = some declaration)
    (completed : templates.complete declaration = .ok merged)
    (single : fanOut chart merged = .ok [merged]) :
    build category chart templates binding (root.editAt (fun _ => merged) path) =
      build category chart templates binding root := by
  obtain ⟨position, path, rfl⟩ := List.exists_cons_of_ne_nil nested
  obtain ⟨inlined, same, inlines⟩ := Inlines.exists_editAt found completed single
  rw [same]
  exact (build_of_differ Inlines.kept (.of_insert inlines) binding).symm

/-! A line that refers to a template, below a text that appears twice; the template brings a state
of its own below the line. -/

def fading : Templates := ⟨[("fading", [("opacity", .int 1),
  ("states", .arr [.obj [("add_time", .int 2), ("opacity", .int 0)]])])]⟩

def fadingLine : Node := [("template", .str "fading"), ("text", .str "line")]

def fadedLine : Node :=
  [("opacity", .int 1), ("states", .arr [.obj [("add_time", .int 2), ("opacity", .int 0)]]),
   ("text", .str "line")]

def twice : Node :=
  [("states", .arr
      [.obj [("states", .arr [.obj fadingLine]), ("time", .arr [.int 5, .int 2])],
       .obj [("text", .str "last")]]),
   ("text", .str "first")]

theorem build_inlined_twice :
    twice.nestedAt [0, 0] = some fadingLine ∧ fading.complete fadingLine = .ok fadedLine ∧
    fanOut Chart.empty fadedLine = .ok [fadedLine] ∧
    (build .text Chart.empty fading none (twice.editAt (fun _ => fadedLine) [0, 0]) =
      build .text Chart.empty fading none twice) ∧
    (inOrder .text Chart.empty fading none twice).toOption.map (fun made => made.1.length) =
      some 8 := by
  have completed : fading.complete fadingLine = .ok fadedLine :=
    Result.eq_ok_of_toOption (by decide +kernel)
  have single : fanOut Chart.empty fadedLine = .ok [fadedLine] :=
    Result.eq_ok_of_toOption (by decide +kernel)
  refine ⟨rfl, completed, single, ?_, by decide +kernel⟩
  exact build_inlined .text Chart.empty fading none twice (by decide) rfl completed single

end Timeline

end Storyboard
