import Storyboard.Proofs.SideBySide

/-!
# Declarations that differ in how they nest

Two declarations are alike if they have the same fields and if what is nested in one is what is
nested in the other with an element spread, at some depth, into the declarations that it fans out
to. Fanning out, laying over templates and unfolding keep declarations alike, and no state depends
on anything else, so alike declarations become the same object.
-/
namespace Storyboard

open Result (Matches)

/-! ## Spreading -/

/-- One element of an array of declarations, or of the `states` of one of them at any depth, is
spread in place into the declarations that it fans out to, each of which stands for itself. -/
inductive Spread (chart : Chart) : List Json → List Json → Prop
  | here (front back : List Json) {declaration : Node} {variants : List Node}
      (fanned : fanOut chart declaration = .ok variants)
      (single : ∀ variant ∈ variants, fanOut chart variant = .ok [variant]) :
      Spread chart (front ++ .obj declaration :: back) (front ++ variants.map Json.obj ++ back)
  | deeper (front back : List Json) {declaration : Node} {items others : List Json}
      (given : Keyed.get? declaration "states" = some (.arr items))
      (inside : Spread chart items others) :
      Spread chart (front ++ .obj declaration :: back)
        (front ++ .obj (Keyed.insert "states" (.arr others) declaration) :: back)

/-- Two values of the field `states` in which the same is nested. -/
inductive SameNested (chart : Chart) : Option Json → Option Json → Prop
  | refl (value : Option Json) : SameNested chart value value
  | spread {items others : List Json} (spread : Spread chart items others) :
      SameNested chart (some (.arr items)) (some (.arr others))

/-- Declarations that have the same fields and in which the same is nested. -/
structure Alike (chart : Chart) (node other : Node) : Prop where
  fields : ∀ key, key ≠ "states" → Keyed.get? node key = Keyed.get? other key
  nested : SameNested chart (Keyed.get? node "states") (Keyed.get? other "states")

variable {chart : Chart} {templates : Templates} {category : Category}

namespace Alike

variable {node other : Node}

theorem refl (node : Node) : Alike chart node node := ⟨fun _ _ => rfl, .refl _⟩

theorem refl_list (nodes : List Node) : List.Forall₂ (Alike chart) nodes nodes :=
  List.forall₂_same.2 fun node _ => refl node

theorem differ (alike : Alike chart node other) : node.Differ (SameNested chart) other :=
  ⟨alike.fields, alike.nested⟩

theorem of_differ (differ : node.Differ (SameNested chart) other) : Alike chart node other :=
  ⟨differ.fields, differ.nested⟩

theorem of_spread {items others : List Json} (given : Keyed.get? node "states" = some (.arr items))
    (spread : Spread chart items others) :
    Alike chart node (Keyed.insert "states" (.arr others) node) :=
  of_differ (.of_insert (given ▸ .spread spread))

theorem fanOut (alike : Alike chart node other) :
    Matches (List.Forall₂ (Alike chart)) (fanOut chart node) (fanOut chart other) :=
  alike.differ.fanOut.imp fun _ _ differ => differ.imp fun _ _ => of_differ

theorem complete (alike : Alike chart node other) :
    Matches (Alike chart) (templates.complete node) (templates.complete other) := by
  have hides : ∀ upper lower below, SameNested chart upper lower →
      SameNested chart (upper.or below) (lower.or below) := by
    intro upper lower below nested
    cases nested with
    | refl value => exact .refl _
    | spread spread => exact .spread spread
  exact (alike.differ.complete hides).imp fun _ _ => of_differ

end Alike

/-! ## What is nested -/

/-- What the elements of an array fan out to, in two parts. -/
theorem flatten_mapM_append {f : Json → Except Fault (List Node)} (front back : List Json) :
    ((front ++ back).mapM f).map List.flatten = (do
      let first ← (front.mapM f).map List.flatten
      let second ← (back.mapM f).map List.flatten
      Except.ok (first ++ second)) := by
  rw [List.mapM_append]
  cases front.mapM f with
  | error fault => rfl
  | ok first =>
    cases back.mapM f with
    | error fault => rfl
    | ok second => exact congrArg Except.ok List.flatten_append

theorem flatten_mapM_cons_iff {f : Json → Except Fault (List Node)} {item : Json}
    {rest : List Json} {variants : List Node} :
    ((item :: rest).mapM f).map List.flatten = .ok variants ↔
      ∃ own others, f item = .ok own ∧ (rest.mapM f).map List.flatten = .ok others ∧
        variants = own ++ others := by
  rw [List.mapM_cons]
  constructor
  · intro done
    obtain ⟨lists, each, rfl⟩ := Result.map_eq_ok_iff.1 done
    obtain ⟨own, first, each⟩ := Result.bind_eq_ok_iff.1 each
    obtain ⟨others, second, same⟩ := Result.bind_eq_ok_iff.1 each
    cases same
    exact ⟨own, others.flatten, first, Result.map_eq_ok_iff.2 ⟨others, second, rfl⟩, rfl⟩
  · rintro ⟨own, others, first, second, rfl⟩
    obtain ⟨lists, each, rfl⟩ := Result.map_eq_ok_iff.1 second
    rw [first, each]
    rfl

/-- What the elements of an array fan out to, one of them among the others. -/
theorem flatten_mapM_middle_iff {f : Json → Except Fault (List Node)} {front back : List Json}
    {item : Json} {variants : List Node} :
    ((front ++ item :: back).mapM f).map List.flatten = .ok variants ↔
      ∃ ahead own behind, (front.mapM f).map List.flatten = .ok ahead ∧ f item = .ok own ∧
        (back.mapM f).map List.flatten = .ok behind ∧ variants = ahead ++ (own ++ behind) := by
  rw [flatten_mapM_append]
  constructor
  · intro done
    obtain ⟨ahead, first, done⟩ := Result.bind_eq_ok_iff.1 done
    obtain ⟨others, rest, same⟩ := Result.bind_eq_ok_iff.1 done
    cases same
    obtain ⟨own, behind, second, third, rfl⟩ := flatten_mapM_cons_iff.1 rest
    exact ⟨ahead, own, behind, first, second, third, rfl⟩
  · rintro ⟨ahead, own, behind, first, second, third, rfl⟩
    rw [first, flatten_mapM_cons_iff.2 ⟨own, behind, second, third, rfl⟩]
    rfl

/-- Declarations that stand for themselves are their own fan-out. -/
theorem flatten_mapM_single {variants : List Node}
    (single : ∀ variant ∈ variants, fanOut chart variant = .ok [variant]) :
    ((variants.map Json.obj).mapM (Outline.ofItem chart)).map List.flatten = .ok variants := by
  have each : variants.mapM (Outline.ofItem chart ∘ Json.obj) = .ok (variants.map fun v => [v]) :=
    Result.mapM_eq_ok_map single
  rw [List.mapM_map, each, Except.map, ← List.flatMap_def, List.flatMap_singleton']

namespace Alike

variable {node other : Node}

/-- The declarations of a spread array are alike those of the array. -/
theorem items {items others : List Json} (spread : Spread chart items others) :
    Matches (List.Forall₂ (Alike chart)) ((items.mapM (Outline.ofItem chart)).map List.flatten)
      ((others.mapM (Outline.ofItem chart)).map List.flatten) := by
  cases spread with
  | @here front back declaration variants fanned single =>
    -- each variant fans out to itself, so both arrays fan out to the same list
    have whole : ((front ++ .obj declaration :: back).mapM (Outline.ofItem chart)).map
          List.flatten =
        ((front ++ variants.map Json.obj ++ back).mapM (Outline.ofItem chart)).map
          List.flatten := by
      have own : ([Json.obj declaration].mapM (Outline.ofItem chart)).map List.flatten =
          .ok variants := by
        simp [Outline.ofItem, fanned, Except.map]
      rw [List.append_assoc, List.append_cons, List.append_assoc, flatten_mapM_append,
        flatten_mapM_append [_], flatten_mapM_append front, flatten_mapM_append (variants.map _),
        own, flatten_mapM_single single]
    rw [whole]
    exact .refl refl_list _
  | @deeper front back declaration inner others given inside =>
    -- one element differs, and it fans out to variants that differ only in how they nest
    exact Outline.items_of_replaced refl front back (of_spread given inside).fanOut

theorem children (alike : Alike chart node other) :
    Matches (List.Forall₂ (Alike chart)) (Outline.children chart node)
      (Outline.children chart other) := by
  unfold Outline.children
  have nested := alike.nested
  generalize Keyed.get? node "states" = value, Keyed.get? other "states" = spread at nested
  cases nested with
  | refl value => exact .refl refl_list _
  | spread spread => exact items spread

/-- Unfolding keeps declarations alike. -/
theorem kept : KeptByUnfolding chart templates (SameNested chart) := fun _ _ differ =>
  (of_differ differ).children.imp fun _ _ alike => alike.imp fun _ _ first =>
    first.complete.imp fun _ _ => Alike.differ

/-! ## Objects -/

theorem build_eq (alike : Alike chart node other) (binding : Binding) :
    Timeline.build category chart templates binding node =
      Timeline.build category chart templates binding other :=
  Timeline.build_of_differ kept alike.differ binding

theorem identify_eq (alike : Alike chart node other) :
    Prepared.identify node = Prepared.identify other := by
  rw [Prepared.identify, Prepared.identify, alike.differ.textIn_eq (by decide),
    alike.differ.textIn_eq (by decide), alike.differ.textIn_eq (by decide)]

theorem withDefaultTime (alike : Alike chart node other) :
    Alike chart (Prepared.withDefaultTime category node)
      (Prepared.withDefaultTime category other) := by
  unfold Prepared.withDefaultTime
  rw [alike.differ.given?_eq (by decide)]
  split
  · exact .of_differ (alike.differ.insert (by decide) _)
  · exact alike

/-- Declarations that are alike become the same object. -/
theorem ofNode_eq (alike : Alike chart node other) :
    Prepared.ofNode category chart templates node =
      Prepared.ofNode category chart templates other := by
  rw [Prepared.ofNode, Prepared.ofNode]
  -- the default time and the templates keep the two alike, and no later stage tells them apart
  refine ((alike.withDefaultTime.complete.mapError _).bind fun merged same alike => ?_).eq
  rw [alike.identify_eq, alike.build_eq, alike.differ.ownNote_eq]
  exact .of_eq _

end Alike
end Storyboard
