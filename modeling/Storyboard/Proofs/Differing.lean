import Storyboard.Proofs.Inheritance
import Storyboard.Proofs.NoteLaw
import Storyboard.Proofs.Variants

/-!
# Declarations that differ in what is nested

What a declaration fans out to, what it becomes over its templates, and its state are made of the
same fields whatever is nested in it. So two declarations that share all other fields go through
these stages side by side, and differ in what is nested at the end as they did at the beginning.
-/
namespace Storyboard

/-! ## Results that match -/

namespace Result

variable {ε α β γ δ : Type}

/-- Two results match if they are the same fault or values in a relation. -/
inductive Matches (related : α → β → Prop) : Except ε α → Except ε β → Prop
  | error (e : ε) : Matches related (.error e) (.error e)
  | ok {a : α} {b : β} (holds : related a b) : Matches related (.ok a) (.ok b)

namespace Matches

variable {related : α → β → Prop} {x : Except ε α} {y : Except ε β}

theorem refl {related : α → α → Prop} (all : ∀ a, related a a) (x : Except ε α) :
    Matches related x x := by
  cases x with
  | error e => exact .error e
  | ok a => exact .ok (all a)

theorem of_eq (x : Except ε α) : Matches (· = ·) x x := refl (fun _ => rfl) x

theorem eq {x y : Except ε α} (same : Matches (· = ·) x y) : x = y := by
  cases same with
  | error => rfl
  | ok holds => rw [holds]

theorem bind {further : γ → δ → Prop} {f : α → Except ε γ} {g : β → Except ε δ}
    (first : Matches related x y) (next : ∀ a b, related a b → Matches further (f a) (g b)) :
    Matches further (x >>= f) (y >>= g) := by
  cases first with
  | error e => exact .error e
  | ok holds => exact next _ _ holds

theorem map {further : γ → δ → Prop} {f : α → γ} {g : β → δ} (first : Matches related x y)
    (each : ∀ a b, related a b → further (f a) (g b)) :
    Matches further (x.map f) (y.map g) := by
  cases first with
  | error e => exact .error e
  | ok holds => exact .ok (each _ _ holds)

theorem mapError {δ : Type} (same : Matches related x y) (g : ε → δ) :
    Matches related (x.mapError g) (y.mapError g) := by
  cases same with
  | error e => exact .error (g e)
  | ok holds => exact .ok holds

theorem imp {weaker : α → β → Prop} (same : Matches related x y)
    (each : ∀ a b, related a b → weaker a b) : Matches weaker x y := by
  cases same with
  | error e => exact .error e
  | ok holds => exact .ok (each _ _ holds)

theorem mapM {further : γ → δ → Prop} {f : α → Except ε γ} {g : β → Except ε δ} {xs : List α}
    {ys : List β} (each : List.Forall₂ (fun a b => Matches further (f a) (g b)) xs ys) :
    Matches (List.Forall₂ further) (xs.mapM f) (ys.mapM g) := by
  induction each with
  | nil => exact .ok .nil
  | cons first _ ih =>
    rw [List.mapM_cons, List.mapM_cons]
    refine first.bind fun a b holds => ih.bind fun as bs others => ?_
    exact .ok (.cons holds others)

theorem exists_of_ok {a : α} (same : Matches related (.ok a) y) : ∃ b, y = .ok b ∧ related a b := by
  cases same with
  | ok holds => exact ⟨_, rfl, holds⟩

end Matches
end Result

open Result (Matches)

/-! ## Fields other than `states` -/

/-- Two declarations differ at most in what is nested in them, and there as a relation says. -/
structure Node.Differ (nested : Option Json → Option Json → Prop) (node other : Node) : Prop where
  fields : ∀ key, key ≠ "states" → Keyed.get? node key = Keyed.get? other key
  nested : nested (Keyed.get? node "states") (Keyed.get? other "states")

namespace Node.Differ

variable {chart : Chart} {templates : Templates} {category : Category}
  {nested : Option Json → Option Json → Prop} {node other : Node}

/-- A declaration and one with another value for `states` differ in what is nested only. -/
theorem of_insert {value : Json} (holds : nested (Keyed.get? node "states") (some value)) :
    Differ nested node (Keyed.insert "states" value node) := by
  constructor
  · intro field notStates
    rw [Keyed.get?_insert, if_neg notStates.symm]
  · rw [Keyed.get?_insert, if_pos rfl]
    exact holds

theorem insert (differ : Differ nested node other) {key : String} (kept : key ≠ "states")
    (value : Json) :
    Differ nested (Keyed.insert key value node) (Keyed.insert key value other) := by
  constructor
  · intro field notStates
    rw [Keyed.get?_insert, Keyed.get?_insert, differ.fields field notStates]
  · rw [Keyed.get?_insert, Keyed.get?_insert, if_neg kept, if_neg kept]
    exact differ.nested

/-! ## Variants -/

theorem timeItems?_eq (differ : Differ nested node other) :
    Fanout.timeItems? node = Fanout.timeItems? other := by
  simp only [Fanout.timeItems?, Fanout.timeFields, List.findSome?_cons, List.findSome?_nil,
    differ.fields "relative_time" (by decide), differ.fields "add_time" (by decide),
    differ.fields "time" (by decide)]

theorem times (differ : Differ nested node other) :
    List.Forall₂ (Differ nested) (Fanout.times node) (Fanout.times other) := by
  unfold Fanout.times
  rw [differ.timeItems?_eq]
  split
  · exact .cons differ .nil
  · next field items fans =>
    -- what is nested never fans out by itself
    have differs : field ≠ "states" := by
      rintro rfl
      exact absurd (Fanout.timeItems?_eq_some fans).1 (by decide)
    rw [List.forall₂_map_left_iff, List.forall₂_map_right_iff, List.forall₂_same]
    exact fun item _ => differ.insert differs item

theorem notes (differ : Differ nested node other) :
    Matches (List.Forall₂ (Differ nested)) (Fanout.notes chart node)
      (Fanout.notes chart other) := by
  unfold Fanout.notes
  rw [differ.fields "note" (by decide)]
  refine (Matches.of_eq _).map ?_
  rintro ids? _ rfl
  cases ids? with
  | none => exact .cons differ .nil
  | some ids =>
    dsimp only
    rw [List.forall₂_map_left_iff, List.forall₂_map_right_iff, List.forall₂_same]
    exact fun id _ => differ.insert (by decide) _

theorem fanOut (differ : Differ nested node other) :
    Matches (List.Forall₂ (Differ nested)) (fanOut chart node) (fanOut chart other) := by
  have each : List.Forall₂ (fun a b => Matches (List.Forall₂ (Differ nested))
      (Fanout.notes chart a) (Fanout.notes chart b)) (Fanout.times node) (Fanout.times other) :=
    differ.times.imp fun _ _ => Differ.notes
  exact (Matches.mapM each).map fun lists others same => List.rel_flatten same

/-- What is nested in a declaration itself hides what its templates nest. -/
theorem complete (differ : Differ nested node other)
    (hides : ∀ upper lower below, nested upper lower → nested (upper.or below) (lower.or below)) :
    Matches (Differ nested) (templates.complete node) (templates.complete other) := by
  unfold Templates.complete
  rw [differ.fields "template" (by decide)]
  cases Keyed.get? other "template" with
  | none => exact .ok differ
  | some reference =>
    refine (Matches.of_eq _).bind ?_
    rintro fragments _ rfl
    refine .ok ⟨fun key notStates => ?_, ?_⟩
    · rw [Keyed.get?_overlay, Keyed.get?_overlay, Keyed.get?_erase, Keyed.get?_erase,
        differ.fields key notStates]
    · rw [Keyed.get?_overlay, Keyed.get?_overlay, Keyed.get?_erase, Keyed.get?_erase,
        if_neg (by decide), if_neg (by decide)]
      exact hides _ _ _ differ.nested

/-! ## States -/

theorem given?_eq (differ : Differ nested node other) {field : String} (kept : field ≠ "states") :
    node.given? field = other.given? field := by
  rw [Node.given?, Node.given?, differ.fields field kept]

theorem textIn_eq (differ : Differ nested node other) {field : String} (kept : field ≠ "states") :
    Prepared.textIn node field = Prepared.textIn other field := by
  rw [Prepared.textIn, Prepared.textIn, differ.given?_eq kept]

theorem ownNote_eq (differ : Differ nested node other) : ownNote node = ownNote other := by
  rw [ownNote, ownNote, differ.fields "note" (by decide)]

theorem patchOf_eq (differ : Differ nested node other) :
    State.patchOf category node = State.patchOf category other := by
  have read : Attributes.read category
        (fun name => (Keyed.get? node name).map Json.Draft.ofJson) =
      Attributes.read category (fun name => (Keyed.get? other name).map Json.Draft.ofJson) :=
    Attributes.read_congr fun field member => by
      have kept : field.name ≠ "states" := fun same =>
        category.name_not_structural field member (same ▸ by decide)
      rw [differ.fields field.name kept]
  rw [State.patchOf, State.patchOf, read]

theorem follow_eq (differ : Differ nested node other) (before : Option (State category)) :
    State.follow before node = State.follow before other := by
  have patch : State.patchOf category node = State.patchOf category other := differ.patchOf_eq
  have resets : State.resets node = State.resets other := by
    rw [State.resets, State.resets, differ.fields "reset" (by decide)]
  have relative : State.numberIn node "relative_time" = State.numberIn other "relative_time" := by
    rw [State.numberIn, State.numberIn, differ.fields "relative_time" (by decide)]
  have add : State.numberIn node "add_time" = State.numberIn other "add_time" := by
    rw [State.numberIn, State.numberIn, differ.fields "add_time" (by decide)]
  simp only [State.follow, patch, resets, relative, add]

end Node.Differ
end Storyboard
