import Storyboard.Board.Declarations
import Storyboard.Proofs.Faults
import Storyboard.Proofs.FilledTexts

/-!
# What the placeholder stands for

A declaration that carries a note should give the placeholder its note for everything that is
resolved after it. It does so for its own time and ids, but it hands the note on to the declarations
nested in it only if its own time is written with the placeholder. This module says exactly when
the placeholder is found unbound below a declaration with a note.
-/
namespace Storyboard

open Result (FailsOnlyWith)

namespace Placeholder

/-- A text with a note's id wherever the placeholder stands. -/
def withNote (id : NoteId) (text : String) : String :=
  String.ofList (fill (toString id.toInt).toList text.toList)

theorem fill_eq_self {value text : List Char} (free : occurs text = false) :
    fill value text = text := by
  fun_induction occurs text with
  | case1 => rfl
  | case2 => cases free
  | case3 c rest other ih => rw [fill, ih free]; exact other

/-- A text is filled in with the note that the placeholder stands for. -/
theorem fillIn_of_use {binding : Binding} {own : Option NoteId} {id : NoteId}
    (stands : binding.use own = some id) (text : String) :
    fillIn binding own text = .ok (withNote id text) := by
  unfold fillIn withNote
  rw [stands]
  split
  · rfl
  · next free =>
    rw [fill_eq_self (Bool.eq_false_iff.2 free), String.ofList_toList]

/-- With a note of its own, a declaration always has something for the placeholder. -/
theorem fillIn_own (binding : Binding) (id : NoteId) (text : String) :
    fillIn binding (some id) text = .ok (withNote id text) :=
  fillIn_of_use rfl text

end Placeholder

namespace TimeToken

/-- A token with the placeholder is the only one that needs a binding. -/
theorem resolve_fails {chart : Chart} {binding : Binding} {own : Option NoteId} {token : TimeToken}
    (bound : token.note = .placeholder → binding.use own ≠ none) :
    FailsOnlyWith Fault.Bound (token.resolve chart binding own) := by
  unfold resolve
  refine .bind ?_ fun id => ?_
  · unfold noteId
    split
    · exact .ok _
    · next refers =>
      split
      · exact .ok _
      · next free => exact absurd free (bound refers)
  · split
    · exact .ok _
    · exact .error ⟨nofun, nofun⟩

end TimeToken

namespace WrittenTime

/-- The token that a field value is, if it is one with the placeholder. -/
def placeholder? (value : Option Json) : Option TimeToken :=
  match value with
  | some (.str text) => (TimeToken.ofText? text).filter fun token => token.note = .placeholder
  | _ => none

theorem exists_text_of_placeholder? {value : Option Json} {token : TimeToken}
    (given : placeholder? value = some token) :
    ∃ text, value = some (.str text) ∧ TimeToken.ofText? text = some token ∧
      token.note = .placeholder := by
  unfold placeholder? at given
  split at given
  · next text =>
    obtain ⟨read, refers⟩ := Option.filter_eq_some_iff.1 given
    exact ⟨text, rfl, read, of_decide_eq_true refers⟩
  · cases given

variable {chart : Chart} {binding : Binding} {own : Option NoteId} {value : Option Json}

/-- The placeholder comes to the time of the note that it stands for. -/
theorem resolve_bound {token : TimeToken} {id : NoteId} {note : Note}
    (given : placeholder? value = some token) (bound : binding.use own = some id)
    (known : chart.note? id = some note) :
    resolve chart binding own value = .ok (some (token.anchor.time note token.offset)) := by
  obtain ⟨text, rfl, read, refers⟩ := exists_text_of_placeholder? given
  simp only [resolve, read, TimeToken.resolve, TimeToken.noteId, refers, bound, known,
    Result.ok_bind]

theorem resolve_unbound {token : TimeToken} (given : placeholder? value = some token)
    (free : binding.use own = none) :
    ∃ text, resolve chart binding own value = .error ((Fault.of .unboundNote).within text) := by
  obtain ⟨text, rfl, read, refers⟩ := exists_text_of_placeholder? given
  refine ⟨text, ?_⟩
  simp only [resolve, read, TimeToken.resolve, TimeToken.noteId, refers, free, Result.error_bind]

theorem resolve_fails
    (bound : (placeholder? value).isSome = true → binding.use own ≠ none) :
    FailsOnlyWith Fault.Bound (resolve chart binding own value) := by
  unfold resolve
  split
  · next text =>
    split
    · exact .ok none
    · next token read =>
      have tokenBound : token.note = .placeholder → binding.use own ≠ none := by
        intro refers
        apply bound
        rw [placeholder?, read, Option.filter_some, if_pos (decide_eq_true refers)]
        rfl
      split
      · exact .ok _
      · next fault failed =>
        exact .error ((TimeToken.resolve_fails tokenBound fault failed).within text)
  · exact .ok _
  · exact .ok none

/-- Only the placeholder can be found unbound, and only where nothing is bound. -/
theorem resolve_unbound_iff :
    FailsUnbound ((resolve chart binding own value).mapError .failed) ↔
      (placeholder? value).isSome = true ∧ binding.use own = none := by
  constructor
  · intro failed
    by_contra other
    exact FailsUnbound.not_of_bound (resolve_fails fun refers free => other ⟨refers, free⟩).lift
      failed
  · rintro ⟨refers, free⟩
    obtain ⟨token, given⟩ := Option.isSome_iff_exists.1 refers
    obtain ⟨text, failed⟩ := resolve_unbound given free
    exact ⟨_, congrArg (Except.mapError Stop.failed) failed, rfl⟩

theorem bindingAfter_eq (binding : Binding) (own : Option NoteId) (value : Option Json) :
    bindingAfter binding own value =
      if (placeholder? value).isSome then binding.use own else binding := by
  cases value with
  | none => rfl
  | some value =>
    cases value with
    | str text =>
      cases read : TimeToken.ofText? text with
      | none => simp [bindingAfter, placeholder?, read]
      | some token =>
        obtain ⟨anchor, reference, offset⟩ := token
        cases reference with
        | placeholder => simp [bindingAfter, placeholder?, read]
        | id id => simp [bindingAfter, placeholder?, read]
    | _ => rfl

end WrittenTime

/-- A declaration rebinds the placeholder if it carries a note and its time refers to the
placeholder. -/
def Node.Rebinds (node : Node) : Prop :=
  ownNote node ≠ none ∧ (WrittenTime.placeholder? (Keyed.get? node "time")).isSome = true

instance (node : Node) : Decidable node.Rebinds :=
  inferInstanceAs (Decidable (_ ∧ _))

theorem WrittenTime.bindingAfter_of_not_rebinds {node : Node} (quiet : ¬ node.Rebinds)
    (binding : Binding) :
    bindingAfter binding (ownNote node) (Keyed.get? node "time") = binding := by
  rw [bindingAfter_eq]
  split
  · next refers =>
    -- without a note of its own, the declaration binds again what is bound
    have noteless : ownNote node = none := by
      by_contra carries
      exact quiet ⟨carries, refers⟩
    rw [noteless]
    rfl
  · rfl

/-- No declaration of an outline carries a note. -/
def Outline.Noteless (outline : Outline) : Prop :=
  ∀ node, .ok node ∈ outline.steps → ownNote node = none

variable {category : Category} {chart : Chart} {templates : Templates}

namespace Timeline

/-- Passing a declaration finds the placeholder unbound if its time refers to it and there is
nothing for it to stand for. -/
theorem passNode_unbound_iff {binding : Binding} {node : Node} :
    FailsUnbound (passNode category chart binding node) ↔
      (WrittenTime.placeholder? (Keyed.get? node "time")).isSome = true ∧
        binding.use (ownNote node) = none := by
  rw [← @WrittenTime.resolve_unbound_iff chart]
  exact FailsUnbound.bind_iff_left fun _ =>
    .bind (State.patchOf_fails category node).lift fun _ => .ok _

/-- A walk along steps finds the placeholder unbound at the first declaration that fails at all. -/
theorem passAll_unbound_iff {binding : Binding} {steps : List (Except (Stop Fault) Node)}
    (broken : ∀ stop, .error stop ∈ steps → stop.OnlyFor Fault.Bound) :
    FailsUnbound (passAll category chart binding steps) ↔
      ∃ before node after, steps = before ++ .ok node :: after ∧
        ∃ reached, passAll category chart binding before = .ok reached ∧
          FailsUnbound (passNode category chart reached node) := by
  constructor
  · rintro ⟨fault, failed, unbound⟩
    obtain ⟨before, step, after, rfl, reached, passed, now⟩ :=
      Result.foldlM_eq_error_iff.1 failed
    cases step with
    | error first =>
      -- what an outline breaks off with is never an unbound placeholder
      cases now
      exact absurd unbound (Fault.Bound.other (broken (.failed fault) (by simp)))
    | ok node => exact ⟨before, node, after, rfl, reached, passed, fault, now, unbound⟩
  · rintro ⟨before, node, after, split, reached, passed, fault, now, unbound⟩
    exact ⟨fault, Result.foldlM_eq_error_iff.2 ⟨before, .ok node, after, split, reached, passed,
      now⟩, unbound⟩

/-- When the states of an object are made, a declaration below its own is arrived at if all
declarations in front of it can be passed. -/
def Arrives (category : Category) (chart : Chart) (templates : Templates) (root child : Node)
    (binding : Binding) : Prop :=
  ∃ before after, (Outline.ofNode chart templates root).steps = before ++ .ok child :: after ∧
    passAll category chart none (.ok root :: before) = .ok binding

/-- The states of an object cannot be made for an unbound placeholder in its own time or in one
that is arrived at. -/
theorem build_unbound_iff {root : Node} :
    FailsUnbound (build category chart templates none root) ↔
      FailsUnbound (passNode category chart none root) ∨
      ∃ child binding, Arrives category chart templates root child binding ∧
        FailsUnbound (passNode category chart binding child) := by
  have made : FailsUnbound (build category chart templates none root) ↔
      FailsUnbound (inOrder category chart templates none root) :=
    FailsUnbound.bind_iff_left fun _ => .ok _
  have broken : ∀ stop, .error stop ∈ .ok root :: (Outline.ofNode chart templates root).steps →
      stop.OnlyFor Fault.Bound := by
    intro stop member
    rcases List.mem_cons.1 member with impossible | later
    · cases impossible
    · exact Outline.bound_of_nested later
  -- the loop over the steps fails just as the walk does, and at one declaration
  rw [made, ← FailsUnbound.map_iff (f := Prod.snd), map_snd_inOrder, passAll_unbound_iff broken]
  constructor
  · rintro ⟨before, node, after, split, reached, passed, failed⟩
    rcases List.cons_eq_append_iff.1 split with ⟨rfl, first⟩ | ⟨front, rfl, rest⟩
    · cases first
      cases passed
      exact .inl failed
    · exact .inr ⟨node, reached, ⟨front, after, rest, passed⟩, failed⟩
  · rintro (failed | ⟨child, binding, ⟨before, after, split, passed⟩, failed⟩)
    · exact ⟨[], root, _, rfl, none, rfl, failed⟩
    · exact ⟨.ok root :: before, child, after, by rw [split]; rfl, binding, passed, failed⟩

/-- Declarations without a note of their own leave the binding as it is. -/
theorem binding_of_arrives {root child : Node} {binding : Binding} {id : NoteId}
    (carries : ownNote root = some id)
    (bare : (Outline.ofNode chart templates root).Noteless)
    (arrives : Arrives category chart templates root child binding) :
    binding =
      if (WrittenTime.placeholder? (Keyed.get? root "time")).isSome then some id else none := by
  obtain ⟨before, after, split, passed⟩ := arrives
  rw [passAll_cons, Result.bind_eq_ok_iff] at passed
  obtain ⟨first, start, rest⟩ := passed
  rw [eq_bindingAfter_of_passNode start, WrittenTime.bindingAfter_eq, carries] at rest
  -- the declaration binds its note or nothing, and no declaration below it changes that
  refine Result.foldlM_preserves (fun reached => reached = _) ?_ rest rfl
  intro step member reached next passed same
  cases step with
  | error stop => cases passed
  | ok other =>
    have own : ownNote other = none := by
      apply bare
      rw [split]
      exact List.mem_append_left _ member
    have quiet : ¬ other.Rebinds := fun rebinds => rebinds.1 own
    rw [eq_bindingAfter_of_passNode passed, WrittenTime.bindingAfter_of_not_rebinds quiet, same]

/-- The nested declaration that is arrived at carries no note either. -/
theorem ownNote_of_arrives {root child : Node} {binding : Binding}
    (bare : (Outline.ofNode chart templates root).Noteless)
    (arrives : Arrives category chart templates root child binding) : ownNote child = none := by
  obtain ⟨before, after, split, _⟩ := arrives
  apply bare
  rw [split]
  exact List.mem_append_right _ (List.mem_cons_self ..)

/-- Below a declaration with a note, the placeholder is unbound where nested declarations refer to
it and that declaration does not. -/
theorem build_unbound_iff_of_note {root : Node} {id : NoteId} (carries : ownNote root = some id)
    (bare : ∀ other, .ok other ∈ (Outline.ofNode chart templates root).steps →
      ownNote other = none) :
    FailsUnbound (build category chart templates none root) ↔
      WrittenTime.placeholder? (Keyed.get? root "time") = none ∧
      ∃ child binding, Arrives category chart templates root child binding ∧
        (WrittenTime.placeholder? (Keyed.get? child "time")).isSome = true := by
  rw [build_unbound_iff, passNode_unbound_iff, carries]
  constructor
  · rintro (⟨_, impossible⟩ | ⟨child, binding, arrives, failed⟩)
    · cases impossible
    · rw [passNode_unbound_iff, ownNote_of_arrives bare arrives] at failed
      obtain ⟨refers, free⟩ := failed
      -- had the declaration referred to the placeholder, its note would be bound
      refine ⟨?_, child, binding, arrives, refers⟩
      have bound := binding_of_arrives carries bare arrives
      cases found : WrittenTime.placeholder? (Keyed.get? root "time") with
      | none => rfl
      | some token =>
        rw [found] at bound
        subst bound
        cases free
  · rintro ⟨silent, child, binding, arrives, refers⟩
    refine .inr ⟨child, binding, arrives, ?_⟩
    have bound := binding_of_arrives carries bare arrives
    rw [silent] at bound
    subst bound
    rw [passNode_unbound_iff, ownNote_of_arrives bare arrives]
    exact ⟨refers, rfl⟩

end Timeline

namespace Prepared

theorem textIn_fails (node : Node) (field : String) :
    FailsOnlyWith Fault.Bound (textIn node field) := by
  unfold textIn
  split
  · exact .ok none
  · exact .ok _
  · exact .error ⟨nofun, nofun⟩

theorem identify_fails (node : Node) : FailsOnlyWith Fault.Bound (identify node) := by
  refine .bind (textIn_fails node "id") fun id => ?_
  refine .bind (textIn_fails node "target_id") fun targetId => ?_
  refine .bind (textIn_fails node "parent_id") fun parentId => ?_
  split
  · exact .error ⟨nofun, nofun⟩
  · split
    · exact .error ⟨nofun, nofun⟩
    · exact .ok _

theorem exists_of_ofNode {node merged : Node} {prepared : Prepared category}
    (completed : templates.complete (withDefaultTime category node) = .ok merged)
    (made : ofNode category chart templates node = .ok prepared) :
    identify merged = .ok (prepared.id, prepared.targetId, prepared.parentId) ∧
      Timeline.build category chart templates none merged =
        .ok (prepared.states, prepared.binding) ∧
      prepared.own = ownNote merged := by
  rw [ofNode, completed, Result.mapError_ok_bind] at made
  obtain ⟨⟨id, targetId, parentId⟩, identified, made⟩ := Result.mapError_bind_eq_ok_iff.1 made
  obtain ⟨⟨states, binding⟩, built, same⟩ := Result.bind_eq_ok_iff.1 made
  cases same
  exact ⟨identified, built, rfl⟩

theorem ofNode_unbound_iff {node merged : Node}
    (completed : templates.complete (withDefaultTime category node) = .ok merged) :
    FailsUnbound (ofNode category chart templates node) ↔
      (∃ names, identify merged = .ok names) ∧
        FailsUnbound (Timeline.build category chart templates none merged) := by
  rw [ofNode, completed, Result.mapError_ok_bind, FailsUnbound.bind_iff]
  simp only [Result.mapError_eq_ok_iff]
  constructor
  · rintro (failed | ⟨names, identified, failed⟩)
    · exact absurd failed (FailsUnbound.not_of_bound (identify_fails merged).lift)
    · exact ⟨⟨names, identified⟩, (FailsUnbound.bind_iff_left fun _ => .ok _).1 failed⟩
  · rintro ⟨⟨names, identified⟩, failed⟩
    exact .inr ⟨names, identified, (FailsUnbound.bind_iff_left fun _ => .ok _).2 failed⟩

/-- With a note of its own, a prepared declaration always becomes an object, with the note in its
ids. -/
theorem finish_own (prepared : Prepared category) {id : NoteId} (own : prepared.own = some id)
    (counter : Nat) :
    (prepared.finish counter).1 = .ok
      { id := (prepared.id.map (Placeholder.withNote id)).getD
          (numberedId category (counter + 1))
        targetId := prepared.targetId.map (Placeholder.withNote id)
        parentId := prepared.parentId.map (Placeholder.withNote id)
        states := prepared.states } := by
  have filled (text : String) : prepared.filled text = .ok (Placeholder.withNote id text) := by
    rw [Prepared.filled, own, Placeholder.fillIn_own]
  have filled? (text? : Option String) :
      prepared.filled? text? = .ok (text?.map (Placeholder.withNote id)) := by
    cases text? with
    | none => rfl
    | some text => rw [Prepared.filled?, filled]; rfl
  cases given : prepared.id with
  | none => simp [finish, given, filled?, bind, Except.bind, pure, Except.pure]
  | some text => simp [finish, given, filled, filled?, bind, Except.bind, pure, Except.pure]

end Prepared

namespace Declarations

/-- An object is a declaration whose states are built and whose ids are filled in. -/
theorem exists_prepared_of_object {node : Node} {counter : Nat} {made : StageObject category}
    (loaded : (object chart templates category node counter).1 = .ok made) :
    ∃ prepared, Prepared.ofNode category chart templates node = .ok prepared ∧
      (prepared.finish counter).1 = .ok made := by
  rw [object] at loaded
  cases prepared : Prepared.ofNode category chart templates node with
  | error stop =>
    rw [prepared] at loaded
    cases loaded
  | ok ready =>
    rw [prepared] at loaded
    exact ⟨ready, rfl, Result.mapError_eq_ok_iff.1 loaded⟩

theorem object_unbound_iff {node merged : Node} {id : NoteId} {counter : Nat}
    (completed : templates.complete (Prepared.withDefaultTime category node) = .ok merged)
    (carries : ownNote merged = some id) :
    FailsUnbound (object chart templates category node counter).1 ↔
      (∃ names, Prepared.identify merged = .ok names) ∧
        FailsUnbound (Timeline.build category chart templates none merged) := by
  rw [← Prepared.ofNode_unbound_iff completed, object]
  cases prepared : Prepared.ofNode category chart templates node with
  | error stop =>
    constructor
    · rintro ⟨fault, same, unbound⟩
      cases same
      exact ⟨fault, rfl, unbound⟩
    · rintro ⟨fault, same, unbound⟩
      cases same
      exact ⟨fault, rfl, unbound⟩
  | ok ready =>
    -- once its states are made, nothing is left to fail: its note stands for every placeholder
    obtain ⟨_, _, own⟩ := Prepared.exists_of_ofNode completed prepared
    dsimp only
    rw [ready.finish_own (own.trans carries)]
    exact iff_of_false (FailsUnbound.not_ok _) (FailsUnbound.not_ok _)

/-- **The placeholder below a declaration with a note.** If a declaration carries a note that the
chart knows and nothing nested in it carries one, loading it finds the placeholder unbound exactly
if its own time is not written with the placeholder and a nested time that is arrived at is. If its
own time is written so, each of those times is one of its note; and in any case its ids, if it
loads, are filled in with its note. -/
theorem object_note_law {node merged : Node} {id : NoteId} {note : Note} (counter : Nat)
    (completed : templates.complete (Prepared.withDefaultTime category node) = .ok merged)
    (carries : ownNote merged = some id) (known : chart.note? id = some note)
    (bare : (Outline.ofNode chart templates merged).Noteless) :
    (FailsUnbound (object chart templates category node counter).1 ↔
      (∃ names, Prepared.identify merged = .ok names) ∧
      WrittenTime.placeholder? (Keyed.get? merged "time") = none ∧
      ∃ child binding, Timeline.Arrives category chart templates merged child binding ∧
        (WrittenTime.placeholder? (Keyed.get? child "time")).isSome = true) ∧
    ((WrittenTime.placeholder? (Keyed.get? merged "time")).isSome = true →
      ∀ child binding token, Timeline.Arrives category chart templates merged child binding →
        WrittenTime.placeholder? (Keyed.get? child "time") = some token →
        WrittenTime.resolve chart binding (ownNote child) (Keyed.get? child "time") =
          .ok (some (token.anchor.time note token.offset))) ∧
    (∀ made, (object chart templates category node counter).1 = .ok made →
      ∃ given target parent, Prepared.identify merged = .ok (given, target, parent) ∧
        made.id = (given.map (Placeholder.withNote id)).getD
          (Prepared.numberedId category (counter + 1)) ∧
        made.targetId = target.map (Placeholder.withNote id) ∧
        made.parentId = parent.map (Placeholder.withNote id)) := by
  refine ⟨?_, ?_, ?_⟩
  · rw [object_unbound_iff completed carries, Timeline.build_unbound_iff_of_note carries bare]
  · intro refers child binding token arrives given
    have bound := Timeline.binding_of_arrives carries bare arrives
    rw [if_pos refers] at bound
    subst bound
    rw [Timeline.ownNote_of_arrives bare arrives]
    exact WrittenTime.resolve_bound given rfl known
  · intro made loaded
    obtain ⟨ready, prepared, done⟩ := exists_prepared_of_object loaded
    obtain ⟨identified, _, own⟩ := Prepared.exists_of_ofNode completed prepared
    rw [ready.finish_own (own.trans carries)] at done
    cases done
    exact ⟨ready.id, ready.targetId, ready.parentId, identified, rfl, rfl, rfl⟩

/-! A declaration with a note that is shown from 0 on, and again from the start of its note on: the
note is lost on the way to the nested state. -/

def silentChart : Chart where
  notes := [⟨1, 0, .zero false, 0, .ofInt 1, .ofInt 2, .ofInt 3⟩]
  sorted := List.pairwise_singleton ..

def silentDeclaration : Node :=
  [("id", .str "a"), ("note", .int 1),
   ("states", .arr [.obj [("time", .str "start:$note")]]), ("time", .int 0)]

theorem object_note_law_silent :
    Templates.empty.complete (Prepared.withDefaultTime .text silentDeclaration) =
      .ok silentDeclaration ∧
    ownNote silentDeclaration = some 1 ∧
    (silentChart.note? 1).isSome = true ∧
    (Outline.ofNode silentChart Templates.empty silentDeclaration).Noteless ∧
    FailsUnbound (object silentChart Templates.empty .text silentDeclaration 0).1 := by
  have completed : Templates.empty.complete (Prepared.withDefaultTime .text silentDeclaration) =
      .ok silentDeclaration := rfl
  have carries : ownNote silentDeclaration = some 1 := by decide
  have known : silentChart.note? 1 =
      some ⟨1, 0, .zero false, 0, .ofInt 1, .ofInt 2, .ofInt 3⟩ := by decide +kernel
  have steps : (Outline.ofNode silentChart Templates.empty silentDeclaration).steps =
      [.ok [("time", .str "start:$note")]] := by rfl
  have bare : (Outline.ofNode silentChart Templates.empty silentDeclaration).Noteless := by
    intro child member
    rw [steps, List.mem_singleton] at member
    cases member
    decide
  refine ⟨completed, carries, by rw [known]; rfl, bare, ?_⟩
  refine (object_note_law 0 completed carries known bare).1.2 ⟨⟨_, rfl⟩, rfl, ?_⟩
  refine ⟨_, none, ⟨[], [], steps, ?_⟩, by decide +kernel⟩
  exact Result.eq_ok_of_toOption (by decide +kernel)

end Declarations
end Storyboard
