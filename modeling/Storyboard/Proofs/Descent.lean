import Mathlib.Algebra.GroupWithZero.Nat
import Mathlib.Algebra.Order.BigOperators.Group.List
import Mathlib.Algebra.Order.Group.Nat
import Mathlib.Data.List.Chain
import Mathlib.Logic.Relation
import Storyboard.Proofs.Passing
import Storyboard.Proofs.Variants

/-!
# How far walks go down

An outline has room for as many levels as a declaration and all templates are deep. More room
changes nothing. A walk that needs it has gone down further than the templates it met on the way
can carry it, so it has come to the same nested declarations twice; what was bound the first time
serves the second time too, and the walk goes around without end, whatever the room.

Main statements: `Outline.states_nested_of_levels_le`, `Timeline.inOrder_eq_ok_iff`.
-/
namespace Storyboard

open Relation (TransGen ReflTransGen)

variable {category : Category} {chart : Chart} {templates : Templates}

/-! ## Bindings that serve again -/

namespace Binding

/-- A binding can stand in for another one if it is the same or a note that the chart knows. -/
def StandsIn (chart : Chart) (binding other : Binding) : Prop :=
  other = binding ∨ ∃ id, other = some id ∧ (chart.note? id).isSome

namespace StandsIn

theorem refl (binding : Binding) : StandsIn chart binding binding := .inl rfl

theorem known {id : NoteId} {note : Note} (found : chart.note? id = some note)
    (binding : Binding) : StandsIn chart binding (some id) :=
  .inr ⟨id, rfl, by rw [found]; rfl⟩

theorem trans {first second third : Binding} (left : StandsIn chart first second)
    (right : StandsIn chart second third) : StandsIn chart first third := by
  rcases right with rfl | known
  · exact left
  · exact .inr known

end StandsIn
end Binding

open Binding (StandsIn)

namespace WrittenTime

variable {binding other : Binding} {own : Option NoteId} {value : Option Json}
  {time : Option Binary64}

/-- A time that is resolved is resolved again with a binding that stands in for the first one. -/
theorem resolve_of_standsIn (resolved : resolve chart binding own value = .ok time)
    (serves : StandsIn chart binding other) :
    (∃ again, resolve chart other own value = .ok again) ∧
    StandsIn chart binding (bindingAfter binding own value) ∧
    StandsIn chart (bindingAfter binding own value) (bindingAfter other own value) := by
  cases value with
  | none => exact ⟨⟨_, rfl⟩, .refl binding, serves⟩
  | some value =>
    cases value with
    | str text =>
      cases read : TimeToken.ofText? text with
      | none =>
        simp only [resolve, bindingAfter, read]
        exact ⟨⟨none, rfl⟩, .refl binding, serves⟩
      | some token =>
        obtain ⟨anchor, reference, offset⟩ := token
        cases reference with
        | id id =>
          -- a note that is named does not depend on what is bound
          simp only [resolve, bindingAfter, read] at resolved ⊢
          exact ⟨⟨time, resolved⟩, .refl binding, serves⟩
        | placeholder =>
          simp only [resolve, bindingAfter, read, TimeToken.resolve, TimeToken.noteId] at resolved ⊢
          cases used : binding.use own with
          | none => simp [used, Result.error_bind] at resolved
          | some id =>
            cases found : chart.note? id with
            | none => simp [used, found, Result.ok_bind] at resolved
            | some note =>
              have served : StandsIn chart (some id) (other.use own) := by
                rw [← used]
                cases own with
                | some own => exact .refl _
                | none => exact serves
              obtain ⟨again, same, note, known⟩ : ∃ again, other.use own = some again ∧
                  ∃ note, chart.note? again = some note := by
                rcases served with same | ⟨again, same, known⟩
                · exact ⟨id, same, note, found⟩
                · exact ⟨again, same, Option.isSome_iff_exists.1 known⟩
              refine ⟨⟨some (anchor.time note offset), ?_⟩, .known found binding, served⟩
              simp only [same, known, Result.ok_bind]
    | _ => exact ⟨⟨_, rfl⟩, .refl binding, serves⟩

end WrittenTime

namespace Timeline

variable {binding other after : Binding} {node : Node}

theorem passNode_eq_ok_iff : passNode category chart binding node = .ok after ↔
    (∃ time, WrittenTime.resolve chart binding (ownNote node) (Keyed.get? node "time") =
      .ok time) ∧
    (∃ patch, State.patchOf category node = .ok patch) ∧
    after = WrittenTime.bindingAfter binding (ownNote node) (Keyed.get? node "time") := by
  constructor
  · intro passed
    obtain ⟨time, resolved, rest⟩ := Result.mapError_bind_eq_ok_iff.1 passed
    obtain ⟨patch, read, same⟩ := Result.mapError_bind_eq_ok_iff.1 rest
    cases same
    exact ⟨⟨time, resolved⟩, ⟨patch, read⟩, rfl⟩
  · rintro ⟨⟨time, resolved⟩, ⟨patch, read⟩, rfl⟩
    rw [passNode, resolved, read]
    rfl

/-- What is bound after a declaration stands in for what was bound before it. -/
theorem standsIn_of_passNode (passed : passNode category chart binding node = .ok after) :
    StandsIn chart binding after := by
  obtain ⟨⟨time, resolved⟩, _, rfl⟩ := passNode_eq_ok_iff.1 passed
  exact (WrittenTime.resolve_of_standsIn resolved (.refl binding)).2.1

theorem passNode_of_standsIn (passed : passNode category chart binding node = .ok after)
    (serves : StandsIn chart binding other) :
    ∃ later, passNode category chart other node = .ok later ∧ StandsIn chart after later := by
  obtain ⟨⟨time, resolved⟩, read, rfl⟩ := passNode_eq_ok_iff.1 passed
  obtain ⟨again, _, later⟩ := WrittenTime.resolve_of_standsIn resolved serves
  exact ⟨_, passNode_eq_ok_iff.2 ⟨again, read, rfl⟩, later⟩

end Timeline

/-! ## Passing siblings -/

/-- A walk passes declarations that stand beside each other, and everything below them, from one
binding to another. -/
inductive Passes (category : Category) (chart : Chart) (templates : Templates) :
    Binding → List Node → Binding → Prop
  | done (binding : Binding) : Passes category chart templates binding [] binding
  | entry {binding entered left after : Binding} {variant node : Node} {rest variants : List Node}
      (merged : templates.complete variant = .ok node)
      (passed : Timeline.passNode category chart binding node = .ok entered)
      (unfolded : Outline.children chart node = .ok variants)
      (inner : Passes category chart templates entered variants left)
      (outer : Passes category chart templates left rest after) :
      Passes category chart templates binding (variant :: rest) after

namespace Passes

variable {binding other after : Binding} {variants : List Node}

theorem standsIn (passes : Passes category chart templates binding variants after) :
    StandsIn chart binding after := by
  induction passes with
  | done binding => exact .refl binding
  | entry _ passed _ _ _ inside beside =>
    exact ((Timeline.standsIn_of_passNode passed).trans inside).trans beside

theorem of_standsIn (passes : Passes category chart templates binding variants after)
    (serves : StandsIn chart binding other) :
    ∃ later, Passes category chart templates other variants later ∧ StandsIn chart after later := by
  induction passes generalizing other with
  | done => exact ⟨other, .done other, serves⟩
  | entry merged passed unfolded _ _ inside beside =>
    obtain ⟨entered, again, serves⟩ := Timeline.passNode_of_standsIn passed serves
    obtain ⟨left, inner, serves⟩ := inside serves
    obtain ⟨later, outer, serves⟩ := beside serves
    exact ⟨later, .entry merged again unfolded inner outer, serves⟩

end Passes

/-! ## Going down -/

/-- A place that a walk comes to: a declaration with what is bound after it. -/
abbrev Place := Node × Binding

/-- A walk goes down from a place to a declaration nested there, after it has passed those in front
of it. -/
inductive Leads (category : Category) (chart : Chart) (templates : Templates) :
    Place → Place → Prop
  | intro {node child : Node} {binding reached after : Binding} {variant : Node}
      {before later : List Node}
      (unfolded : Outline.children chart node = .ok (before ++ variant :: later))
      (passes : Passes category chart templates binding before reached)
      (merged : templates.complete variant = .ok child)
      (passed : Timeline.passNode category chart reached child = .ok after) :
      Leads category chart templates (node, binding) (child, after)

/-- What is nested in a declaration depends on its `states` alone. -/
theorem Outline.children_congr {node other : Node}
    (same : Keyed.get? node "states" = Keyed.get? other "states") :
    children chart node = children chart other := by
  rw [children, children, same]

/-- A declaration is nested immediately in another one and laid over its templates. -/
def Outline.Below (chart : Chart) (templates : Templates) (node child : Node) : Prop :=
  ∃ variants variant, children chart node = .ok variants ∧ variant ∈ variants ∧
    templates.complete variant = .ok child

namespace Leads

variable {place below : Place}

theorem nests (leads : Leads category chart templates place below) :
    Outline.Below chart templates place.1 below.1 := by
  obtain ⟨unfolded, _, merged, _⟩ := leads
  exact ⟨_, _, unfolded, List.mem_append_right _ (List.mem_cons_self ..), merged⟩

theorem standsIn (leads : Leads category chart templates place below) :
    StandsIn chart place.2 below.2 := by
  obtain ⟨_, passes, _, passed⟩ := leads
  exact passes.standsIn.trans (Timeline.standsIn_of_passNode passed)

/-- From where the same declarations are nested and enough is bound, a walk goes down to the same
declaration. -/
theorem of_standsIn {other : Place} (leads : Leads category chart templates place below)
    (same : Keyed.get? place.1 "states" = Keyed.get? other.1 "states")
    (serves : StandsIn chart place.2 other.2) :
    ∃ after, Leads category chart templates other (below.1, after) ∧
      StandsIn chart below.2 after := by
  obtain ⟨unfolded, passes, merged, passed⟩ := leads
  obtain ⟨reached, again, serves⟩ := passes.of_standsIn serves
  obtain ⟨after, entered, serves⟩ := Timeline.passNode_of_standsIn passed serves
  exact ⟨after, .intro (Outline.children_congr same ▸ unfolded) again merged entered, serves⟩

end Leads

/-- A walk goes down a number of levels from a place. -/
inductive Descends (category : Category) (chart : Chart) (templates : Templates) :
    Nat → Place → Prop
  | here (place : Place) : Descends category chart templates 0 place
  | deeper {levels : Nat} {place below : Place} (leads : Leads category chart templates place below)
      (further : Descends category chart templates levels below) :
      Descends category chart templates (levels + 1) place

namespace Descends

variable {levels : Nat} {place below : Place}

/-- The places that are come to on the way down, one below the other. -/
theorem exists_isChain (descends : Descends category chart templates levels place) :
    ∃ path, path.length = levels ∧ (place :: path).IsChain (Leads category chart templates) := by
  induction descends with
  | here place => exact ⟨[], rfl, .singleton place⟩
  | @deeper _ _ below leads _ ih =>
    obtain ⟨path, rfl, chain⟩ := ih
    exact ⟨below :: path, rfl, .cons_cons leads chain⟩

theorem of_succ (descends : Descends category chart templates (levels + 1) place) :
    Descends category chart templates levels place := by
  induction levels generalizing place with
  | zero => exact .here place
  | succ levels ih =>
    cases descends with
    | deeper leads further => exact .deeper leads (ih further)

theorem of_reflTransGen (path : ReflTransGen (Leads category chart templates) place below)
    (descends : Descends category chart templates levels below) :
    Descends category chart templates levels place := by
  induction path using ReflTransGen.head_induction_on with
  | refl => exact descends
  | head leads _ ih => exact (Descends.deeper leads ih).of_succ

theorem succ_of_transGen (path : TransGen (Leads category chart templates) place below)
    (descends : Descends category chart templates levels below) :
    Descends category chart templates (levels + 1) place := by
  obtain ⟨next, leads, path⟩ := TransGen.head'_iff.1 path
  exact .deeper leads (of_reflTransGen path descends)

end Descends

/-! ## Room for the way down -/

namespace Outline

open Timeline

variable {binding after : Binding} {levels more : Nat} {node : Node} {variants : List Node}
  {below : Node → Outline}

theorem passAll_siblings_cons (binding : Binding) (variant : Node) (rest : List Node) :
    passAll category chart binding (siblings templates below (variant :: rest)).steps = (do
      let node ← (templates.complete variant).mapError .failed
      let entered ← passNode category chart binding node
      let left ← passAll category chart entered (below node).steps
      passAll category chart left (siblings templates below rest).steps) := by
  rw [siblings]
  cases templates.complete variant with
  | error fault => rfl
  | ok node =>
    rw [steps, passAll_cons, Result.mapError_ok_bind]
    have same : passStep category chart binding (.ok node) =
        passNode category chart binding node := rfl
    rw [same]
    cases passNode category chart binding node with
    | error fault => rfl
    | ok entered => rw [Result.ok_bind, Result.ok_bind, passAll_append]

/-- Once the first declaration is passed, the walk is below it, and from there on along its
siblings. -/
theorem passAll_siblings_of_passed {variant : Node} {entered : Binding} (rest : List Node)
    (merged : templates.complete variant = .ok node)
    (passed : passNode category chart binding node = .ok entered) :
    passAll category chart binding (siblings templates below (variant :: rest)).steps = (do
      let left ← passAll category chart entered (below node).steps
      passAll category chart left (siblings templates below rest).steps) := by
  rw [passAll_siblings_cons, merged, Result.mapError_ok_bind, passed, Result.ok_bind]

theorem nested_of_error {fault : Fault} (failed : children chart node = .error fault)
    (levels : Nat) : nested chart templates levels node = broken (.failed fault) := by
  cases levels <;> simp only [nested, failed]

theorem nested_of_nil (bare : children chart node = .ok []) (levels : Nat) :
    nested chart templates levels node = done := by
  cases levels <;> simp only [nested, bare, siblings]

theorem nested_zero_of_cons {variant : Node} {rest : List Node}
    (unfolded : children chart node = .ok (variant :: rest)) :
    nested chart templates 0 node = broken .endless := by
  simp only [nested, unfolded]

theorem nested_succ_of_ok (unfolded : children chart node = .ok variants) (levels : Nat) :
    nested chart templates (levels + 1) node =
      siblings templates (nested chart templates levels) variants := by
  simp only [nested, unfolded]

/-- Siblings that can be passed are passed wherever there is room, and the walk goes on behind
them. -/
theorem passAll_of_passes (passes : Passes category chart templates binding variants after)
    (levels : Nat) (rest : List Node) :
    passAll category chart binding
        (siblings templates (nested chart templates levels) (variants ++ rest)).steps =
      passAll category chart after
        (siblings templates (nested chart templates levels) rest).steps ∨
    passAll category chart binding
        (siblings templates (nested chart templates levels) (variants ++ rest)).steps =
      .error .endless := by
  induction passes generalizing levels rest with
  | done => exact .inl rfl
  | @entry binding entered left after variant node others variants merged passed unfolded inner _
      inside beside =>
    rw [List.cons_append, passAll_siblings_of_passed _ merged passed]
    -- below the first sibling the walk comes out with what is bound there, or room runs out
    have below : passAll category chart entered (nested chart templates levels node).steps =
          .ok left ∨
        passAll category chart entered (nested chart templates levels node).steps =
          .error .endless := by
      cases levels with
      | succ levels =>
        rw [nested_succ_of_ok unfolded, ← List.append_nil variants]
        exact inside levels []
      | zero =>
        cases variants with
        | nil =>
          cases inner
          rw [nested_of_nil unfolded]
          exact .inl rfl
        | cons first _ =>
          rw [nested_zero_of_cons unfolded]
          exact .inr rfl
    rcases below with finished | endless
    · rw [finished, Result.ok_bind]
      exact beside levels rest
    · rw [endless]
      exact .inr rfl

/-- A walk that goes down further than there is room for runs out of it. -/
theorem passAll_of_descends {place : Place}
    (descends : Descends category chart templates (levels + 1) place) :
    passAll category chart place.2 (nested chart templates levels place.1).steps =
      .error .endless := by
  induction levels generalizing place with
  | zero =>
    cases descends with
    | deeper leads _ =>
      obtain @⟨node, child, binding, reached, after, variant, before, later, unfolded, _⟩ := leads
      obtain ⟨first, rest, same⟩ : ∃ first rest, before ++ variant :: later = first :: rest := by
        cases before <;> exact ⟨_, _, rfl⟩
      rw [same] at unfolded
      rw [nested_zero_of_cons unfolded]
      rfl
  | succ levels ih =>
    cases descends with
    | deeper leads further =>
      obtain @⟨node, child, binding, reached, after, variant, before, later, unfolded, passes,
        merged, passed⟩ := leads
      rw [nested_succ_of_ok unfolded]
      -- the room may already be used up below one of the siblings in front
      rcases passAll_of_passes passes levels (variant :: later) with goes | endless
      · rw [goes, passAll_siblings_of_passed _ merged passed, ih further]
        rfl
      · exact endless

/-- In some room a walk passes an outline, and in more room the outline stays as it is. -/
structure Fits (category : Category) (chart : Chart) (outline : Nat → Outline) (levels : Nat)
    (binding after : Binding) : Prop where
  passed : passAll category chart binding (outline levels).steps = .ok after
  stays : ∀ more, levels ≤ more → outline more = outline levels

/-- In some room a walk along an outline ends with a fault, and in more room with the same one. -/
def Fails (category : Category) (chart : Chart) (outline : Nat → Outline) (levels : Nat)
    (binding : Binding) : Prop :=
  ∃ fault, ∀ more, levels ≤ more →
    passAll category chart binding (outline more).steps = .error (.failed fault)

/-- What can come of a walk along siblings: it passes them all, it ends with a fault, or it goes
down below one of them as far as there is room. -/
theorem siblings_cases
    (deeper : ∀ node entered,
      (∃ variants left, children chart node = .ok variants ∧
        Passes category chart templates entered variants left ∧
        Fits category chart (nested chart templates · node) levels entered left) ∨
      Fails category chart (nested chart templates · node) levels entered ∨
      Descends category chart templates levels (node, entered))
    (binding : Binding) (variants : List Node) :
    (∃ after, Passes category chart templates binding variants after ∧
      Fits category chart (fun room => siblings templates (nested chart templates room) variants)
        levels binding after) ∨
    Fails category chart (fun room => siblings templates (nested chart templates room) variants)
      levels binding ∨
    ∃ before variant later reached child after, variants = before ++ variant :: later ∧
      Passes category chart templates binding before reached ∧
      templates.complete variant = .ok child ∧
      passNode category chart reached child = .ok after ∧
      Descends category chart templates levels (child, after) := by
  induction variants generalizing binding with
  | nil => exact .inl ⟨binding, .done binding, rfl, fun _ _ => rfl⟩
  | cons variant rest ih =>
    cases merged : templates.complete variant with
    | error fault =>
      refine .inr (.inl ⟨fault, fun more _ => ?_⟩)
      rw [passAll_siblings_cons, merged]
      rfl
    | ok node =>
      cases passed : passNode category chart binding node with
      | error stop =>
        -- a declaration that cannot be passed has a fault of its own
        cases stop with
        | endless => exact absurd rfl (passNode_ends binding node _ passed)
        | failed fault =>
          refine .inr (.inl ⟨fault, fun more _ => ?_⟩)
          rw [passAll_siblings_cons, merged, Result.mapError_ok_bind, passed]
          rfl
      | ok entered =>
        rcases deeper node entered with ⟨variants, left, unfolded, inner, below⟩ | ⟨fault, ends⟩ |
          down
        · rcases ih left with ⟨after, outer, beside⟩ | ⟨fault, ends⟩ |
            ⟨before, lower, later, reached, child, after, split, passes, found⟩
          · refine .inl ⟨after, .entry merged passed unfolded inner outer, ?_, fun more le => ?_⟩
            · rw [passAll_siblings_of_passed rest merged passed, below.passed]
              exact beside.passed
            · simp only [siblings, merged, below.stays more le, beside.stays more le]
          · refine .inr (.inl ⟨fault, fun more le => ?_⟩)
            rw [passAll_siblings_of_passed rest merged passed, below.stays more le, below.passed]
            exact ends more le
          · subst split
            exact .inr (.inr ⟨variant :: before, lower, later, reached, child, after, rfl,
              .entry merged passed unfolded inner passes, found⟩)
        · refine .inr (.inl ⟨fault, fun more le => ?_⟩)
          rw [passAll_siblings_of_passed rest merged passed, ends more le]
          rfl
        · exact .inr (.inr ⟨[], variant, rest, binding, node, entered, rfl, .done binding, merged,
            passed, down⟩)

/-- What can come of a walk below a declaration. -/
theorem nested_cases (levels : Nat) (node : Node) (entered : Binding) :
    (∃ variants left, children chart node = .ok variants ∧
      Passes category chart templates entered variants left ∧
      Fits category chart (nested chart templates · node) levels entered left) ∨
    Fails category chart (nested chart templates · node) levels entered ∨
    Descends category chart templates levels (node, entered) := by
  induction levels generalizing node entered with
  -- a walk that has gone down no level has gone down as far as there is room
  | zero => exact .inr (.inr (.here _))
  | succ levels ih =>
    cases unfolded : children chart node with
    | error fault =>
      refine .inr (.inl ⟨fault, fun more _ => ?_⟩)
      simp only [nested_of_error unfolded]
      rfl
    | ok variants =>
      -- in more room than this, one level of it goes to the declaration itself
      have shape {more : Nat} (le : levels + 1 ≤ more) : nested chart templates more node =
          siblings templates (nested chart templates (more - 1)) variants := by
        obtain ⟨room, rfl⟩ := Nat.exists_eq_add_of_le' le
        exact nested_succ_of_ok unfolded (room + levels)
      rcases siblings_cases ih entered variants with ⟨left, passes, fits⟩ | ⟨fault, ends⟩ |
        ⟨before, variant, later, reached, child, after, rfl, passes, merged, passed, down⟩
      · refine .inl ⟨variants, left, rfl, passes, ?_, fun more le => ?_⟩
        · rw [nested_succ_of_ok unfolded]
          exact fits.passed
        · rw [shape le, nested_succ_of_ok unfolded]
          exact fits.stays _ (Nat.le_sub_one_of_lt le)
      · refine .inr (.inl ⟨fault, fun more le => ?_⟩)
        simp only [shape le]
        exact ends _ (Nat.le_sub_one_of_lt le)
      · exact .inr (.inr (.deeper (.intro unfolded passes merged passed) down))

end Outline

/-! ## Going around -/

/-- How deep the declarations nested in one go. -/
def Node.nestedDepth (node : Node) : Nat := ((Keyed.get? node "states").map Json.depth).getD 0

theorem Json.depth_le_of_mem {items : List Json} {item : Json} (member : item ∈ items) :
    item.depth ≤ Json.depthOfItems items := by
  induction items with
  | nil => cases member
  | cons first rest ih =>
    rw [Json.depthOfItems]
    rcases List.mem_cons.1 member with rfl | later
    · exact Nat.le_max_left ..
    · exact Nat.le_trans (ih later) (Nat.le_max_right ..)

theorem Json.depth_le_of_get? {fields : Keyed Json} {key : String} {value : Json}
    (given : Keyed.get? fields key = some value) : value.depth ≤ Json.depthOfFields fields := by
  induction fields with
  | nil => cases given
  | cons field rest ih =>
    rw [Json.depthOfFields]
    rw [Keyed.get?] at given
    split at given
    · cases given
      exact Nat.le_max_left ..
    · exact Nat.le_trans (ih given) (Nat.le_max_right ..)

theorem Node.nestedDepth_le (node : Node) : node.nestedDepth ≤ Json.depthOfFields node := by
  unfold nestedDepth
  cases given : Keyed.get? node "states" with
  | none => exact Nat.zero_le _
  | some value => exact Json.depth_le_of_get? given

theorem Node.nestedDepth_congr {node other : Node}
    (same : Keyed.get? node "states" = Keyed.get? other "states") :
    node.nestedDepth = other.nestedDepth := by
  rw [nestedDepth, nestedDepth, same]

/-- One of the declarations nested in another one, as they are written. -/
def Node.Holds (node element : Node) : Prop :=
  ∃ items, Keyed.get? node "states" = some (.arr items) ∧ .obj element ∈ items

theorem Node.Holds.nestedDepth_lt {node element : Node} (holds : node.Holds element) :
    element.nestedDepth < node.nestedDepth := by
  obtain ⟨items, given, listed⟩ := holds
  have nested : element.nestedDepth ≤ Json.depthOfFields element := element.nestedDepth_le
  have beside : (Json.obj element).depth ≤ Json.depthOfItems items := Json.depth_le_of_mem listed
  have whole : node.nestedDepth = 1 + Json.depthOfItems items := by
    rw [Node.nestedDepth, given, Option.map_some, Option.getD_some, Json.depth]
  rw [Json.depth] at beside
  omega

/-- A variant stands for one of the declarations that are nested as they are written, and fanning
that out has changed its times and its note only. -/
theorem Outline.exists_holds_of_mem_children {node variant : Node} {variants : List Node}
    (unfolded : children chart node = .ok variants) (member : variant ∈ variants) :
    ∃ element, node.Holds element ∧
      ∀ key, key ∉ Fanout.changed → Keyed.get? variant key = Keyed.get? element key := by
  unfold children at unfolded
  split at unfolded
  · cases unfolded
    cases member
  · cases unfolded
    cases member
  · next items given =>
    obtain ⟨lists, each, rfl⟩ := Result.map_eq_ok_iff.1 unfolded
    obtain ⟨list, inside, among⟩ := List.mem_flatten.1 member
    obtain ⟨item, listed, fanned⟩ := Result.exists_of_mem_mapM each inside
    unfold ofItem at fanned
    split at fanned
    · next child =>
      exact ⟨child, ⟨items, given, listed⟩, fun key kept => get?_of_mem_fanOut fanned among kept⟩
    · cases fanned
  · cases unfolded

namespace Outline.Below

/-- What is nested in a declaration is less deep than the declaration, or comes from a template. -/
theorem nestedDepth_lt {node child : Node} (below : Below chart templates node child) :
    0 < node.nestedDepth ∧ (child.nestedDepth < node.nestedDepth ∨
      ∃ entry ∈ templates.fragments, Keyed.get? child "states" = Keyed.get? entry.2 "states") := by
  obtain ⟨variants, variant, unfolded, member, merged⟩ := below
  obtain ⟨element, holds, kept⟩ := exists_holds_of_mem_children unfolded member
  have lower : variant.nestedDepth < node.nestedDepth := by
    rw [Node.nestedDepth_congr (kept "states" (by decide))]
    exact holds.nestedDepth_lt
  refine ⟨Nat.zero_lt_of_lt lower, ?_⟩
  refine (Templates.get?_of_complete merged (by decide)).imp_left fun own => ?_
  exact Node.nestedDepth_congr own ▸ lower

variable {α : Type} {leads : α → α → Prop}

/-- A way down that is longer than a declaration is deep, and the fragments that are left together,
comes to a fragment that is used up, or to the same nested declarations twice. -/
theorem exists_loop_of_left (nodeOf : α → Node)
    (nests : ∀ place below, leads place below →
      Below chart templates (nodeOf place) (nodeOf below))
    {place : α} {path : List α} (chain : (place :: path).IsChain leads) {used left : List Node}
    (registry : ∀ entry ∈ templates.fragments, entry.2 ∈ used ∨ entry.2 ∈ left)
    (far : (nodeOf place).nestedDepth + (left.map Node.nestedDepth).sum < path.length) :
    (∃ fragment ∈ used, ∃ below, TransGen leads place below ∧
      Keyed.get? (nodeOf below) "states" = Keyed.get? fragment "states") ∨
    ∃ first again, ReflTransGen leads place first ∧ TransGen leads first again ∧
      Keyed.get? (nodeOf first) "states" = Keyed.get? (nodeOf again) "states" := by
  induction path generalizing place used left with
  | nil => cases far
  | cons below path ih =>
    obtain ⟨step, chain⟩ := List.isChain_cons_cons.1 chain
    rw [List.length_cons] at far
    obtain ⟨positive, lower | ⟨⟨id, fragment⟩, known, same⟩⟩ :=
      (nests place below step).nestedDepth_lt
    · -- a level that the document nests itself is paid for by the depth
      rcases ih chain registry (by omega) with ⟨fragment, member, last, path, same⟩ |
        ⟨first, again, path, loop, same⟩
      · exact .inl ⟨fragment, member, last, .head step path, same⟩
      · exact .inr ⟨first, again, .head step path, loop, same⟩
    · rcases registry _ known with member | member
      · exact .inl ⟨fragment, member, below, .single step, same⟩
      · -- the fragment is used up, and its depth pays for the way from here
        obtain ⟨front, back, rfl⟩ := List.append_of_mem member
        have registry : ∀ entry ∈ templates.fragments,
            entry.2 ∈ fragment :: used ∨ entry.2 ∈ front ++ back := by
          intro entry listed
          have := registry entry listed
          grind
        have depth : (nodeOf below).nestedDepth = fragment.nestedDepth :=
          Node.nestedDepth_congr same
        have far : (nodeOf below).nestedDepth + ((front ++ back).map Node.nestedDepth).sum <
            path.length := by
          simp only [List.map_append, List.map_cons, List.sum_append, List.sum_cons] at far ⊢
          omega
        rcases ih chain registry far with ⟨other, among, last, path, again⟩ |
          ⟨first, again, path, loop, equal⟩
        · rcases List.mem_cons.1 among with rfl | among
          · exact .inr ⟨below, last, .single step, path, same.trans again.symm⟩
          · exact .inl ⟨other, among, last, .head step path, again⟩
        · exact .inr ⟨first, again, .head step path, loop, equal⟩

/-- A way down as long as a declaration and all templates are deep comes to the same nested
declarations twice. -/
theorem exists_loop (nodeOf : α → Node)
    (nests : ∀ place below, leads place below →
      Below chart templates (nodeOf place) (nodeOf below))
    {place : α} {path : List α} (chain : (place :: path).IsChain leads)
    (far : levels templates (nodeOf place) ≤ path.length) :
    ∃ first again, ReflTransGen leads place first ∧ TransGen leads first again ∧
      Keyed.get? (nodeOf first) "states" = Keyed.get? (nodeOf again) "states" := by
  -- at first no fragment is used up, and the way is longer than all that is left
  have registry : ∀ entry ∈ templates.fragments,
      entry.2 ∈ ([] : List Node) ∨ entry.2 ∈ templates.fragments.map Prod.snd :=
    fun entry member => .inr (List.mem_map_of_mem member)
  have own := Node.nestedDepth_le (nodeOf place)
  have fragments : ((templates.fragments.map Prod.snd).map Node.nestedDepth).sum ≤
      (templates.fragments.map fun entry => Json.depthOfFields entry.2).foldr (· + ·) 0 := by
    rw [List.map_map, ← List.sum_eq_foldr]
    exact List.sum_le_sum fun fragment _ => Node.nestedDepth_le fragment.2
  have longer : (nodeOf place).nestedDepth +
      ((templates.fragments.map Prod.snd).map Node.nestedDepth).sum < path.length := by
    rw [levels] at far
    omega
  rcases exists_loop_of_left nodeOf nests chain registry longer with ⟨_, member, _⟩ | loop
  · cases member
  · exact loop

end Outline.Below

namespace Leads

variable {place below : Place}

/-- What is bound along the way down stands in for what was bound above. -/
theorem standsIn_of_transGen (path : TransGen (Leads category chart templates) place below) :
    StandsIn chart place.2 below.2 := by
  induction path with
  | single leads => exact leads.standsIn
  | tail _ leads ih => exact ih.trans leads.standsIn

theorem transGen_of_standsIn {other : Place}
    (path : TransGen (Leads category chart templates) place below)
    (same : Keyed.get? place.1 "states" = Keyed.get? other.1 "states")
    (serves : StandsIn chart place.2 other.2) :
    ∃ after, TransGen (Leads category chart templates) other (below.1, after) ∧
      StandsIn chart below.2 after := by
  induction path with
  | single leads =>
    obtain ⟨after, again, serves⟩ := leads.of_standsIn same serves
    exact ⟨after, .single again, serves⟩
  | @tail between _ _ leads ih =>
    obtain ⟨reached, path, serves⟩ := ih
    let resumed : Place := (between.1, reached)
    have same : Keyed.get? between.1 "states" = Keyed.get? resumed.1 "states" := rfl
    obtain ⟨after, again, serves⟩ := leads.of_standsIn same serves
    exact ⟨after, .tail path again, serves⟩

end Leads

/-- A walk that comes to the same nested declarations again goes down as far as one likes. -/
theorem Descends.of_loop {first again other : Place}
    (loop : TransGen (Leads category chart templates) first again)
    (around : Keyed.get? first.1 "states" = Keyed.get? again.1 "states") (levels : Nat)
    (same : Keyed.get? first.1 "states" = Keyed.get? other.1 "states")
    (serves : StandsIn chart first.2 other.2) :
    Descends category chart templates levels other := by
  induction levels generalizing other with
  | zero => exact .here other
  | succ levels ih =>
    -- once around leads to a place like the first one, where the loop can be taken again
    obtain ⟨after, path, later⟩ := Leads.transGen_of_standsIn loop same serves
    exact .succ_of_transGen path (ih around ((Leads.standsIn_of_transGen loop).trans later))

/-! ## More room -/

namespace Outline

open Timeline

variable {binding : Binding} {node : Node} {more : Nat}

/-- A walk that goes down as far as an outline has room goes down as far as one likes. -/
theorem descends_of_levels (room : Nat)
    (descends : Descends category chart templates (levels templates node) (node, binding)) :
    Descends category chart templates room (node, binding) := by
  obtain ⟨path, length, chain⟩ := descends.exists_isChain
  obtain ⟨first, again, path, loop, around⟩ :=
    Below.exists_loop Prod.fst (fun _ _ => Leads.nests) chain (Nat.le_of_eq length.symm)
  exact .of_reflTransGen path (.of_loop loop around room rfl (.refl first.2))

/-- A walk below a declaration goes on without end exactly if it goes down as far as one likes. -/
theorem passAll_ofNode_endless_iff :
    passAll category chart binding (ofNode chart templates node).steps = .error .endless ↔
      ∀ room, Descends category chart templates room (node, binding) := by
  constructor
  · intro endless
    rcases @nested_cases category chart templates (levels templates node) node binding with
      ⟨_, _, _, _, fits⟩ | ⟨fault, ends⟩ | descends
    · cases endless.symm.trans fits.passed
    · cases endless.symm.trans (ends _ (Nat.le_refl _))
    · exact fun room => descends_of_levels room descends
  · intro down
    exact passAll_of_descends (down _)

/-- More room than a declaration and all templates are deep changes nothing. -/
theorem states_nested_of_levels_le (enough : levels templates node ≤ more)
    (rootTime : Option Binary64) (cursor : Cursor category) :
    (nested chart templates more node).states chart rootTime cursor =
      (ofNode chart templates node).states chart rootTime cursor := by
  have stop_of_passAll {outline : Outline} {stop : Stop Fault}
      (stops : passAll category chart cursor.binding outline.steps = .error stop) :
      outline.states chart rootTime cursor = .error stop := by
    rwa [← map_snd_states rootTime outline cursor, Result.map_eq_error_iff] at stops
  rcases @nested_cases category chart templates (levels templates node) node cursor.binding with
    ⟨_, _, _, _, fits⟩ | ⟨fault, ends⟩ | descends
  · rw [fits.stays more enough, ofNode]
  · exact (stop_of_passAll (ends more enough)).trans
      (stop_of_passAll (ends _ (Nat.le_refl _))).symm
  · have endless (room : Nat) : (nested chart templates room node).states chart rootTime cursor =
        .error .endless :=
      stop_of_passAll (passAll_of_descends (descends_of_levels (room + 1) descends))
    rw [endless more, ofNode, endless]

/-- Wherever there is room for a walk, going along siblings makes its states. -/
theorem exists_room_of_walk {rootTime : Option Binary64} {cursor : Cursor category}
    {variants : List Node} {moments : List (Moment category)} {after : Binding}
    (walk : Walk chart templates rootTime cursor variants moments after) :
    ∃ room, ∀ levels, room ≤ levels →
      (siblings templates (nested chart templates levels) variants).states chart rootTime cursor =
        .ok ((Moment.allInOrder moments).map Moment.state, after) := by
  induction walk with
  | done cursor => exact ⟨0, fun levels _ => rfl⟩
  | entry merged resolved followed unfolded _ _ inside beside =>
    obtain ⟨below, inner⟩ := inside
    obtain ⟨level, outer⟩ := beside
    -- going below takes one level more than the walk there, and going on takes none
    refine ⟨max (below + 1) level, fun levels enough => ?_⟩
    obtain ⟨room, rfl⟩ := Nat.exists_eq_add_of_le' (Nat.le_trans (Nat.le_max_left ..) enough)
    have deeper : below ≤ room + below := Nat.le_add_left ..
    have along : level ≤ room + (below + 1) := Nat.le_trans (Nat.le_max_right ..) enough
    simp only [siblings, merged, states_entry, resolved, followed, Result.mapError_ok_bind,
      Result.ok_bind, ← Nat.add_assoc, nested_succ_of_ok unfolded, inner _ deeper]
    rw [Nat.add_assoc, outer _ along, Result.ok_bind, Moment.allInOrder, Moment.inOrder_eq,
      List.cons_append, List.map_cons, List.map_append]
    rfl

end Outline

namespace Timeline

variable {binding after : Binding} {root : Node}

/-- Making the states of an object goes on without end exactly if its declaration can be passed and
the walk goes down from it as far as one likes. -/
theorem build_endless_iff : build category chart templates binding root = .error .endless ↔
    ∃ after, passNode category chart binding root = .ok after ∧
      ∀ room, Descends category chart templates room (root, after) := by
  have walked : build category chart templates binding root = .error .endless ↔
      inOrder category chart templates binding root = .error .endless :=
    Result.map_eq_error_iff
  rw [walked, ← Result.map_eq_error_iff (f := Prod.snd), map_snd_inOrder, passAll_cons,
    Result.bind_eq_error_iff]
  simp only [Outline.passAll_ofNode_endless_iff]
  exact or_iff_right fun impossible => passNode_ends binding root _ impossible rfl

/-- The states of an object can be made exactly if its declaration becomes a tree. -/
theorem inOrder_eq_ok_iff {states : List (State category)} :
    inOrder category chart templates binding root = .ok (states, after) ↔
      ∃ tree : Moment category, Makes chart templates binding root tree after ∧
        states = tree.inOrder.map Moment.state := by
  constructor
  · exact exists_makes_of_inOrder
  · rintro ⟨tree, makes, rfl⟩
    obtain ⟨first, made, placed⟩ := makes.followed
    obtain ⟨variants, unfolded, walk⟩ := makes.walked
    obtain ⟨room, walks⟩ := Outline.exists_room_of_walk walk
    have enough : Outline.levels templates root ≤ room + Outline.levels templates root + 1 := by
      omega
    rw [inOrder_eq, makes.resolved, made, Result.mapError_ok_bind, Result.mapError_ok_bind,
      ← placed, ← Outline.states_nested_of_levels_le enough, Outline.nested_succ_of_ok unfolded,
      walks _ (Nat.le_add_right ..), Result.ok_bind, Moment.inOrder_eq, List.map_cons]
    rfl

end Timeline
end Storyboard
