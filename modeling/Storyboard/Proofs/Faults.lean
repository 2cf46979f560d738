import Storyboard.Proofs.Passing

/-!
# Faults of declarations

The kinds of fault that each stage of loading a declaration can meet. Only resolving a time or
filling in an id can find the placeholder unbound: fan-out, templates and attributes have faults of
their own. And no stage can find an id taken: that takes a declaration in front. Where the work goes
on without end, there is no fault at all.
-/
namespace Storyboard

open Result (FailsOnlyWith)

/-- The faults of values that are not what a field asks for. -/
def Fault.Invalid (fault : Fault) : Prop := fault.cause.code = "E4102"

/-- The faults that a declaration can have by itself: all but an id that is taken. -/
def Fault.Own (fault : Fault) : Prop := ∀ id, fault.cause ≠ .redefinition id

/-- The faults that a declaration can have by itself other than an unbound placeholder. -/
structure Fault.Bound (fault : Fault) : Prop where
  other : fault.cause ≠ .unboundNote
  own : fault.Own

/-- The faults of a time that refers to a note. -/
def Fault.OfNote (fault : Fault) : Prop :=
  fault.cause = .unboundNote ∨ ∃ id, fault.cause = .unknownNote id

/-- Where there is a reason for a stop, it has a property. -/
def Stop.OnlyFor {ε : Type} (allowed : ε → Prop) : Stop ε → Prop
  | failed reason => allowed reason
  | endless => True

theorem Stop.OnlyFor.weaken {ε : Type} {allowed wider : ε → Prop} {stop : Stop ε}
    (narrow : stop.OnlyFor allowed) (wide : ∀ e, allowed e → wider e) : stop.OnlyFor wider := by
  cases stop with
  | failed reason => exact wide reason narrow
  | endless => trivial

/-- What fails for reasons of one kind still does where it may also go on without end. -/
theorem Result.FailsOnlyWith.lift {ε α : Type} {allowed : ε → Prop} {x : Except ε α}
    (narrow : FailsOnlyWith allowed x) :
    FailsOnlyWith (Stop.OnlyFor allowed) (x.mapError .failed) :=
  narrow.mapError fun _ holds => holds

theorem Result.mapError_failed_ne_endless {ε α : Type} (x : Except ε α) :
    FailsOnlyWith (· ≠ Stop.endless) (x.mapError .failed) := by
  intro stop failed
  obtain ⟨e, _, rfl⟩ := mapError_eq_error_iff.1 failed
  nofun

theorem Fault.Invalid.bound {fault : Fault} (invalid : fault.Invalid) : fault.Bound := by
  constructor
  · intro unbound
    rw [Fault.Invalid, unbound] at invalid
    exact absurd invalid (by decide)
  · intro id taken
    rw [Fault.Invalid, taken] at invalid
    exact absurd invalid (show "E4101" ≠ "E4102" by decide)

theorem Fault.OfNote.own {fault : Fault} (ofNote : fault.OfNote) : fault.Own := by
  intro id taken
  rcases ofNote with unbound | ⟨note, unknown⟩
  · cases taken.symm.trans unbound
  · cases taken.symm.trans unknown

theorem Fault.Bound.within {fault : Fault} (bound : fault.Bound) (context : String) :
    (fault.within context).Bound :=
  ⟨bound.other, bound.own⟩

/-- A computation that fails since the placeholder is unbound. -/
def FailsUnbound {α : Type} (x : Except (Stop Fault) α) : Prop :=
  ∃ fault, x = .error (.failed fault) ∧ fault.cause = .unboundNote

namespace FailsUnbound

variable {α β : Type}

theorem not_of_bound {x : Except (Stop Fault) α}
    (bound : FailsOnlyWith (Stop.OnlyFor Fault.Bound) x) : ¬ FailsUnbound x := by
  rintro ⟨fault, failed, unbound⟩
  exact Fault.Bound.other (bound (.failed fault) failed) unbound

theorem not_ok (a : α) : ¬ FailsUnbound (.ok a : Except (Stop Fault) α) := not_of_bound (.ok a)

theorem bind_iff {x : Except (Stop Fault) α} {f : α → Except (Stop Fault) β} :
    FailsUnbound (x >>= f) ↔ FailsUnbound x ∨ ∃ a, x = .ok a ∧ FailsUnbound (f a) := by
  constructor
  · rintro ⟨fault, failed, unbound⟩
    rcases Result.bind_eq_error_iff.1 failed with now | ⟨a, given, later⟩
    · exact .inl ⟨fault, now, unbound⟩
    · exact .inr ⟨a, given, fault, later, unbound⟩
  · rintro (⟨fault, now, unbound⟩ | ⟨a, given, fault, later, unbound⟩)
    · exact ⟨fault, Result.bind_eq_error_iff.2 (.inl now), unbound⟩
    · exact ⟨fault, Result.bind_eq_error_iff.2 (.inr ⟨a, given, later⟩), unbound⟩

/-- What comes after a computation does not matter if it fails in other ways only. -/
theorem bind_iff_left {x : Except (Stop Fault) α} {f : α → Except (Stop Fault) β}
    (next : ∀ a, FailsOnlyWith (Stop.OnlyFor Fault.Bound) (f a)) :
    FailsUnbound (x >>= f) ↔ FailsUnbound x := by
  rw [bind_iff, or_iff_left]
  rintro ⟨a, _, later⟩
  exact not_of_bound (next a) later

theorem map_iff {x : Except (Stop Fault) α} {f : α → β} :
    FailsUnbound (x.map f) ↔ FailsUnbound x := by
  simp only [FailsUnbound, Result.map_eq_error_iff]

end FailsUnbound

namespace Selector

theorem integerOf_fails (field : String) (value : Json) :
    FailsOnlyWith Fault.Invalid (integerOf field value) := by
  unfold integerOf
  split
  · exact .ok _
  · exact .error rfl

theorem numberOf_fails (field : String) (value : Json) :
    FailsOnlyWith Fault.Invalid (numberOf field value) := by
  unfold numberOf
  split
  · exact .ok _
  · exact .error rfl

theorem fieldOr_fails {α : Type} {spec : Node} {field : String} {default : α}
    {read : String → Json → Except Fault α}
    (reads : ∀ value, FailsOnlyWith Fault.Invalid (read field value)) :
    FailsOnlyWith Fault.Invalid (fieldOr spec field default read) := by
  unfold fieldOr
  split
  · exact .ok _
  · exact reads _

theorem kindsOf_fails (value : Option Json) : FailsOnlyWith Fault.Invalid (kindsOf value) := by
  unfold kindsOf
  split
  · exact .ok _
  · exact .ok _
  · exact .mapM _ (integerOf_fails "type")
  · exact .bind (integerOf_fails "type" _) fun code => .ok [code]

theorem ofFields_fails (spec : Node) : FailsOnlyWith Fault.Invalid (ofFields spec) := by
  unfold ofFields
  refine .bind (fieldOr_fails (integerOf_fails _)) fun first => ?_
  refine .bind (fieldOr_fails (integerOf_fails _)) fun last => ?_
  refine .bind (fieldOr_fails fun value => .map _ (integerOf_fails _ value)) fun direction => ?_
  refine .bind (fieldOr_fails (numberOf_fails _)) fun minX => ?_
  refine .bind (fieldOr_fails (numberOf_fails _)) fun maxX => ?_
  exact .bind (kindsOf_fails _) fun kinds => .ok _

end Selector

namespace Fanout

theorem noteIdOf_fails (value : Json) : FailsOnlyWith Fault.Invalid (noteIdOf value) := by
  unfold noteIdOf
  split
  · exact .ok _
  · exact .error rfl

theorem noteIds?_fails (chart : Chart) (value : Option Json) :
    FailsOnlyWith Fault.Invalid (noteIds? chart value) := by
  unfold noteIds?
  split
  · exact .ok _
  · exact .ok _
  · exact .map _ (noteIdOf_fails _)
  · exact .map _ (noteIdOf_fails _)
  · exact .map _ (.mapM _ noteIdOf_fails)
  · exact .map _ (Selector.ofFields_fails _)
  · exact .error rfl

end Fanout

theorem fanOut_fails (chart : Chart) (node : Node) :
    FailsOnlyWith Fault.Invalid (fanOut chart node) :=
  .map _ (.mapM _ fun _ => .map _ (Fanout.noteIds?_fails chart _))

namespace Templates

theorem follow_fails (templates : Templates) (fuel : Nat) (seen : List String)
    (reference : Option Json) :
    FailsOnlyWith Fault.Bound (templates.follow fuel seen reference) := by
  fun_induction follow templates fuel seen reference with
  | case1 => exact .ok []
  | case2 => exact .ok []
  | case3 => exact .error ⟨nofun, nofun⟩
  | case4 => exact .error ⟨nofun, nofun⟩
  | case5 => exact .error ⟨nofun, nofun⟩
  -- the one case that goes on, along the reference of the fragment
  | case6 _ _ _ _ _ _ deeper => exact .bind deeper fun _ => .ok _
  | case7 => exact .error ⟨nofun, nofun⟩

theorem complete_fails (templates : Templates) (node : Node) :
    FailsOnlyWith Fault.Bound (templates.complete node) := by
  unfold complete
  split
  · exact .ok _
  · exact .bind (templates.follow_fails _ _ _) fun fragments => .ok _

end Templates

theorem State.patchOf_fails (category : Category) (node : Node) :
    FailsOnlyWith Fault.Bound (patchOf category node) := by
  unfold patchOf
  split
  · exact .ok _
  · exact .error ⟨nofun, nofun⟩

theorem TimeToken.resolve_fails_ofNote {chart : Chart} {binding : Binding} {own : Option NoteId}
    (token : TimeToken) : FailsOnlyWith Fault.OfNote (token.resolve chart binding own) := by
  unfold resolve noteId
  refine .bind ?_ fun id => ?_
  · split
    · exact .ok _
    · split
      · exact .ok _
      · exact .error (.inl rfl)
  · split
    · exact .ok _
    · exact .error (.inr ⟨id, rfl⟩)

theorem WrittenTime.resolve_fails_ofNote {chart : Chart} {binding : Binding} {own : Option NoteId}
    (value : Option Json) : FailsOnlyWith Fault.OfNote (resolve chart binding own value) := by
  unfold resolve
  split
  · split
    · exact .ok none
    · next token _ =>
      split
      · exact .ok _
      · next fault failed => exact .error (token.resolve_fails_ofNote fault failed)
  · exact .ok _
  · exact .ok none

namespace Outline

theorem ofItem_fails (chart : Chart) (item : Json) :
    FailsOnlyWith Fault.Bound (ofItem chart item) := by
  unfold ofItem
  split
  · exact (fanOut_fails chart _).weaken fun _ => Fault.Invalid.bound
  · exact .error ⟨nofun, nofun⟩

theorem children_fails (chart : Chart) (node : Node) :
    FailsOnlyWith Fault.Bound (children chart node) := by
  unfold children
  split
  · exact .ok []
  · exact .ok []
  · exact .map _ (.mapM _ (ofItem_fails chart))
  · exact .error ⟨nofun, nofun⟩

variable {chart : Chart} {templates : Templates}

theorem mem_steps_broken {first stop : Stop Fault} :
    .error stop ∈ (broken first).steps ↔ stop = first := by
  rw [steps, List.mem_singleton, Except.error.injEq]

/-- The outline of siblings breaks off with a fault of one of them, or as the one below one of them
does. -/
theorem allowed_of_siblings {below : Node → Outline} {allowed : Stop Fault → Prop}
    {variants : List Node} (merging : ∀ fault : Fault, fault.Bound → allowed (.failed fault))
    (deeper : ∀ variant ∈ variants, ∀ node, templates.complete variant = .ok node →
      ∀ stop, .error stop ∈ (below node).steps → allowed stop) {stop : Stop Fault}
    (member : .error stop ∈ (siblings templates below variants).steps) : allowed stop := by
  induction variants with
  | nil => cases member
  | cons variant rest ih =>
    cases merged : templates.complete variant with
    | error fault =>
      simp only [siblings, merged, mem_steps_broken] at member
      subst member
      exact merging _ (templates.complete_fails variant _ merged)
    | ok node =>
      simp only [siblings, merged, steps, List.mem_cons, List.mem_append, reduceCtorEq,
        false_or] at member
      rcases member with inside | later
      · exact deeper variant (List.mem_cons_self ..) node merged stop inside
      · exact ih (fun other listed => deeper other (List.mem_cons_of_mem _ listed)) later

/-- No outline breaks off with an unbound placeholder: only the walk along it can find one. -/
theorem bound_of_nested {levels : Nat} {node : Node} {stop : Stop Fault}
    (member : .error stop ∈ (nested chart templates levels node).steps) :
    stop.OnlyFor Fault.Bound := by
  induction levels generalizing node stop with
  | zero =>
    cases unfolded : children chart node with
    | error fault =>
      simp only [nested, unfolded, mem_steps_broken] at member
      subst member
      exact children_fails chart node _ unfolded
    | ok variants =>
      -- an outline without room for another level breaks off for no reason that can be told
      cases variants with
      | nil => simp [nested, unfolded, steps] at member
      | cons variant rest =>
        simp only [nested, unfolded, mem_steps_broken] at member
        subst member
        trivial
  | succ levels ih =>
    cases unfolded : children chart node with
    | error fault =>
      simp only [nested, unfolded, mem_steps_broken] at member
      subst member
      exact children_fails chart node _ unfolded
    | ok variants =>
      simp only [nested, unfolded] at member
      exact allowed_of_siblings (fun _ bound => bound) (fun _ _ _ _ _ => ih) member

end Outline

namespace Timeline

variable {category : Category} {chart : Chart} {templates : Templates}

theorem passNode_fails_own (binding : Binding) (node : Node) :
    FailsOnlyWith (Stop.OnlyFor Fault.Own) (passNode category chart binding node) := by
  refine .bind ((WrittenTime.resolve_fails_ofNote _).weaken fun _ => Fault.OfNote.own).lift
    fun _ => ?_
  exact .bind ((State.patchOf_fails category node).weaken fun _ => Fault.Bound.own).lift
    fun _ => .ok _

/-- Passing one declaration always comes to an end. -/
theorem passNode_ends (binding : Binding) (node : Node) :
    FailsOnlyWith (· ≠ Stop.endless) (passNode category chart binding node) :=
  .bind (Result.mapError_failed_ne_endless _) fun _ =>
    .bind (Result.mapError_failed_ne_endless _) fun _ => .ok _

/-- Building states stops as a loop over the steps does: where the outline breaks off, or at a
declaration. -/
theorem cases_of_build_error {binding : Binding} {root : Node} {stop : Stop Fault}
    (failed : build category chart templates binding root = .error stop) :
    .error stop ∈ (Outline.ofNode chart templates root).steps ∨
      ∃ reached node, passNode category chart reached node = .error stop := by
  have made : inOrder category chart templates binding root = .error stop := by
    rcases Result.bind_eq_error_iff.1 failed with now | ⟨_, _, impossible⟩
    · exact now
    · cases impossible
  have passing : passAll category chart binding
      (.ok root :: (Outline.ofNode chart templates root).steps) = .error stop := by
    rw [← map_snd_inOrder, made]
    rfl
  obtain ⟨before, step, after, split, reached, _, now⟩ := Result.foldlM_eq_error_iff.1 passing
  cases step with
  | ok node => exact .inr ⟨reached, node, now⟩
  | error first =>
    cases now
    have member : .error stop ∈ .ok root :: (Outline.ofNode chart templates root).steps := by
      rw [split]
      exact List.mem_append_right _ (List.mem_cons_self ..)
    rcases List.mem_cons.1 member with impossible | inside
    · cases impossible
    · exact .inl inside

end Timeline
end Storyboard
