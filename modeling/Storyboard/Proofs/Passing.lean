import Storyboard.Proofs.Walk

/-!
# Passing declarations in order

What is bound after a walk and what stops it do not depend on how declarations nest, only
on the order in which the walk comes to them. They are those of a loop over the declarations of an
object in the order of the document, with a stop in the list wherever the outline breaks off.
-/
namespace Storyboard

namespace Outline

/-- What a walk comes to, in order: declarations, and the stops where the outline breaks off. -/
def steps : Outline → List (Except (Stop Fault) Node)
  | done => []
  | broken stop => [.error stop]
  | entry node below next => .ok node :: ((below ()).steps ++ (next ()).steps)

end Outline

namespace Timeline

section

variable (category : Category) (chart : Chart)

/-- What is bound after a declaration, if its time and its attributes can be read. -/
def passNode (binding : Binding) (node : Node) : Except (Stop Fault) Binding := do
  let token := Keyed.get? node "time"
  let _ ← (WrittenTime.resolve chart binding (ownNote node) token).mapError .failed
  let _ ← (State.patchOf category node).mapError .failed
  return WrittenTime.bindingAfter binding (ownNote node) token

def passStep (binding : Binding) (step : Except (Stop Fault) Node) :
    Except (Stop Fault) Binding :=
  step >>= passNode category chart binding

variable {category chart} in
theorem eq_bindingAfter_of_passNode {binding after : Binding} {node : Node}
    (passed : passNode category chart binding node = .ok after) :
    after = WrittenTime.bindingAfter binding (ownNote node) (Keyed.get? node "time") := by
  obtain ⟨time, _, rest⟩ := Result.mapError_bind_eq_ok_iff.1 passed
  obtain ⟨patch, _, same⟩ := Result.mapError_bind_eq_ok_iff.1 rest
  cases same
  rfl

/-- What is bound after all steps of a list, unless one of them fails. -/
def passAll (binding : Binding) (steps : List (Except (Stop Fault) Node)) :
    Except (Stop Fault) Binding :=
  steps.foldlM (passStep category chart) binding

theorem passAll_cons (binding : Binding) (step : Except (Stop Fault) Node)
    (rest : List (Except (Stop Fault) Node)) :
    passAll category chart binding (step :: rest) =
      passStep category chart binding step >>= (passAll category chart · rest) :=
  List.foldlM_cons

theorem passAll_append (binding : Binding) (left right : List (Except (Stop Fault) Node)) :
    passAll category chart binding (left ++ right) =
      passAll category chart binding left >>= (passAll category chart · right) :=
  List.foldlM_append

end
end Timeline

variable {category : Category} {chart : Chart} {templates : Templates}

namespace Timeline

/-- What can come of a declaration: its time or its attributes fail, or it has a state. Passing it
fails with the same fault or binds what its time binds. -/
theorem pass_cases (binding : Binding) (before : Option (State category)) (node : Node) :
    (∃ fault, WrittenTime.resolve chart binding (ownNote node) (Keyed.get? node "time") =
        .error fault ∧
      passStep category chart binding (.ok node) = .error (.failed fault)) ∨
    (∃ time fault, WrittenTime.resolve chart binding (ownNote node) (Keyed.get? node "time") =
        .ok time ∧
      State.follow before node = .error fault ∧
      passStep category chart binding (.ok node) = .error (.failed fault)) ∨
    ∃ time state, WrittenTime.resolve chart binding (ownNote node) (Keyed.get? node "time") =
        .ok time ∧
      State.follow before node = .ok state ∧
      passStep category chart binding (.ok node) =
        .ok (WrittenTime.bindingAfter binding (ownNote node) (Keyed.get? node "time")) := by
  have same : passStep category chart binding (.ok node) =
      passNode category chart binding node := rfl
  rw [same, passNode, State.follow]
  cases WrittenTime.resolve chart binding (ownNote node) (Keyed.get? node "time") with
  | error fault => exact .inl ⟨fault, rfl, rfl⟩
  | ok time =>
    right
    cases State.patchOf category node with
    | error fault => exact .inl ⟨time, fault, rfl, rfl, rfl⟩
    | ok patch => exact .inr ⟨time, _, rfl, rfl, rfl⟩

end Timeline

namespace Outline

open Timeline

/-- The states aside, a walk is a loop over the steps of its outline. -/
theorem map_snd_states (rootTime : Option Binary64) (outline : Outline)
    (cursor : Cursor category) :
    (outline.states chart rootTime cursor).map Prod.snd =
      passAll category chart cursor.binding outline.steps := by
  induction outline generalizing cursor with
  | done => rfl
  | broken stop => rfl
  | entry node below next inner outer =>
    rw [steps, passAll_cons, states_entry]
    rcases pass_cases cursor.binding (some cursor.last) node with
      ⟨fault, resolved, failed⟩ | ⟨time, fault, resolved, unmade, failed⟩ |
      ⟨time, state, resolved, made, passed⟩
    · rw [resolved, failed]
      rfl
    · rw [resolved, unmade, failed]
      rfl
    · -- what is below the declaration is walked before what comes next
      have inside : _ = passAll category chart
          (WrittenTime.bindingAfter cursor.binding (ownNote node) (Keyed.get? node "time"))
          (below ()).steps :=
        inner () (cursor.into rootTime node time (cursor.place time state))
      rw [resolved, made, passed, Result.mapError_ok_bind, Result.mapError_ok_bind, Result.ok_bind,
        passAll_append, ← inside]
      cases (below ()).states chart rootTime
          (cursor.into rootTime node time (cursor.place time state)) with
      | error stop => rfl
      | ok walked =>
        obtain ⟨nested, between⟩ := walked
        have beside : _ = passAll category chart between (next ()).steps :=
          outer () (cursor.past time (cursor.place time state) between)
        rw [Result.ok_bind, Except.map, Result.ok_bind, ← beside]
        dsimp only
        cases (next ()).states chart rootTime
            (cursor.past time (cursor.place time state) between) with
        | error stop => rfl
        | ok others => rfl

end Outline

namespace Timeline

/-- The states aside, making those of an object is a loop over its declaration and the steps below
it. -/
theorem map_snd_inOrder (binding : Binding) (root : Node) :
    (inOrder category chart templates binding root).map Prod.snd =
      passAll category chart binding (.ok root :: (Outline.ofNode chart templates root).steps) := by
  rw [inOrder_eq, passAll_cons]
  rcases pass_cases binding none root with
    ⟨fault, resolved, failed⟩ | ⟨time, fault, resolved, unmade, failed⟩ |
    ⟨time, first, resolved, made, passed⟩
  · rw [resolved, failed]
    rfl
  · rw [resolved, unmade, failed]
    rfl
  · have inside : _ = passAll category chart
        (WrittenTime.bindingAfter binding (ownNote root) (Keyed.get? root "time"))
        (Outline.ofNode chart templates root).steps :=
      Outline.map_snd_states time (Outline.ofNode chart templates root)
        (Cursor.ofRoot binding root time { first with time := time.getD never })
    rw [resolved, made, passed, Result.mapError_ok_bind, Result.mapError_ok_bind, Result.ok_bind,
      ← inside]
    cases (Outline.ofNode chart templates root).states chart time
        (Cursor.ofRoot binding root time { first with time := time.getD never }) with
    | error stop => rfl
    | ok walked => rfl

end Timeline
end Storyboard
