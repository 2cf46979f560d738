import Storyboard.Proofs.Inheritance
import Storyboard.Proofs.StateTimes

/-!
# Malformed times

A value that is not written as a time comes to no time, and its state should never be shown. The
state of an object's own declaration never is. But below it, a malformed time is treated like one
that is not given: the state has the time of the state in front. This module says which time that
is, and so exactly when the state of a malformed time is shown.

Main statement: `Timeline.build_malformed`.
-/
namespace Storyboard

variable {category : Category}

namespace Moment

/-- A moment whose time is given and not null but comes to nothing, without a relative or an
additional time beside it. -/
structure Malformed (moment : Moment category) : Prop where
  present : ∃ value, Keyed.get? moment.node "time" = some value ∧ value ≠ .null
  unread : moment.token = none
  bareOfRelative : State.numberIn moment.node "relative_time" = none
  bareOfAdditional : State.numberIn moment.node "add_time" = none

/-- Whether a moment has a time of its own: a token, a relative or an additional time, or the blank
state's. -/
def isTimed (moment : Moment category) : Bool :=
  moment.token.isSome || (State.numberIn moment.node "relative_time").isSome ||
    (State.numberIn moment.node "add_time").isSome || State.resets moment.node

/-- The time of the nearest moment that has one of its own, if there is one. -/
def nearestTime (back : List (Moment category)) : Binary64 :=
  ((back.find? isTimed).map fun moment => moment.state.time).getD never

variable {moment tree : Moment category} {back : List (Moment category)}

theorem nearestTime_cons (moment : Moment category) (back : List (Moment category)) :
    nearestTime (moment :: back) =
      if moment.isTimed then moment.state.time else nearestTime back := by
  rw [nearestTime, List.find?_cons]
  cases moment.isTimed <;> rfl

theorem isTimed_eq_false_iff : moment.isTimed = false ↔
    moment.token = none ∧ State.numberIn moment.node "relative_time" = none ∧
      State.numberIn moment.node "add_time" = none ∧ State.resets moment.node = false := by
  simp only [isTimed, Bool.or_eq_false_iff, Option.isSome_eq_false_iff,
    Option.isNone_iff_eq_none, and_assoc]

/-- A moment without a time of its own has that of the moment in front. -/
theorem timeFrom_of_not_isTimed (untimed : moment.isTimed = false) (rootTime : Option Binary64)
    (parent : Moment category) (earlier : List (Moment category)) :
    timeFrom rootTime parent earlier moment = timeInFront parent earlier := by
  obtain ⟨token, relative, additional, kept⟩ := isTimed_eq_false_iff.1 untimed
  rw [timeFrom, token, relative, additional, kept]
  rfl

/-- Looking back finds the time of every moment. -/
theorem Timed.time_eq_nearest {rootTime : Option Binary64} (timed : tree.Timed rootTime)
    (start : tree.state.time = tree.token.getD never) (way : WayBack tree moment back) :
    moment.state.time = nearestTime back := by
  let holds (moment : Moment category) (back : List (Moment category)) : Prop :=
    moment.state.time = nearestTime back
  refine way.along holds ?_ ?_
  · -- without a token, the root is never shown, as if there were nothing to look back at
    change tree.state.time = nearestTime [tree]
    rw [nearestTime_cons]
    split
    · rfl
    · next untimed =>
      rw [start, (isTimed_eq_false_iff.1 (Bool.eq_false_iff.2 untimed)).1]
      rfl
  · -- any other moment is found itself or takes over the time that was found in front of it
    intro parent earlier moment later back inside place front
    change moment.state.time = nearestTime (moment :: back)
    rw [nearestTime_cons]
    split
    · rfl
    · next untimed =>
      rw [timed parent inside earlier moment later place,
        timeFrom_of_not_isTimed (Bool.eq_false_iff.2 untimed)]
      exact front

theorem exists_wayBack_cons (inside : moment.Within tree) :
    ∃ back, WayBack tree moment (moment :: back) := by
  obtain ⟨back, way⟩ := exists_wayBack inside
  cases way with
  | root => exact ⟨_, .root⟩
  | nested above place => exact ⟨_, .nested above place⟩

namespace Malformed

theorem timeFrom_of_resets (malformed : moment.Malformed)
    (resets : State.resets moment.node = true) (rootTime : Option Binary64)
    (parent : Moment category) (earlier : List (Moment category)) :
    timeFrom rootTime parent earlier moment = never := by
  rw [timeFrom, malformed.unread, malformed.bareOfRelative, malformed.bareOfAdditional]
  exact if_pos resets

/-- A malformed time is never, if the declaration resets, or that of the nearest moment in front
with a time of its own. -/
theorem time_eq (malformed : moment.Malformed) {rootTime : Option Binary64}
    (timed : tree.Timed rootTime) (start : tree.state.time = tree.token.getD never)
    (way : WayBack tree moment (moment :: back)) :
    moment.state.time = if State.resets moment.node then never else nearestTime back := by
  split
  · next resets =>
    -- a reset counts as a time of its own, so looking back says nothing about what it is
    cases way with
    | root =>
      rw [start, malformed.unread]
      rfl
    | nested above place =>
      rw [timed _ above.within _ _ _ place, malformed.timeFrom_of_resets resets]
  · next kept =>
    have untimed : moment.isTimed = false := isTimed_eq_false_iff.2
      ⟨malformed.unread, malformed.bareOfRelative, malformed.bareOfAdditional,
        Bool.eq_false_iff.2 kept⟩
    rw [timed.time_eq_nearest start way, nearestTime_cons, if_neg (Bool.eq_false_iff.1 untimed)]

end Malformed
end Moment

namespace Timeline

variable {chart : Chart} {templates : Templates}

/-- **Malformed times.** If the states of an object can be built, they are those of the tree that
its declaration unfolds to. A state whose time is given but comes to nothing, without a relative or
an additional time, is never shown if it is that of the object's own declaration or if its
declaration resets. Otherwise it has the time of the nearest state on the way back that has one of
its own, and so it is shown exactly if that one is. -/
theorem build_malformed {binding after : Binding} {root : Node} {states : List (State category)}
    (built : build category chart templates binding root = .ok (states, after)) :
    ∃ tree : Moment category,
      Makes chart templates binding root tree after ∧
      tree.Unfolds chart templates ∧
      states = (tree.inOrder.map Moment.state).mergeSort State.timeLe ∧
      (tree.Malformed → tree.state.time = never) ∧
      ∀ moment : Moment category, moment.Within tree → moment.Malformed →
        (∃ back, Moment.WayBack tree moment (moment :: back)) ∧
        ∀ back, Moment.WayBack tree moment (moment :: back) →
          (moment.state.time =
            if State.resets moment.node then never else Moment.nearestTime back) ∧
          (moment.state.time = never ↔
            State.resets moment.node = true ∨ Moment.nearestTime back = never) := by
  obtain ⟨tree, made, _, rfl⟩ := exists_makes_of_build built
  refine ⟨tree, made, made.unfolds, rfl, fun malformed => ?_, fun moment inside malformed => ?_⟩
  · rw [made.time_eq, malformed.unread]
    rfl
  · refine ⟨Moment.exists_wayBack_cons inside, fun back way => ?_⟩
    have time := malformed.time_eq made.timed made.time_eq way
    refine ⟨time, ?_⟩
    rw [time, ite_eq_left_iff, Bool.not_eq_true, or_iff_not_imp_left, Bool.not_eq_true]

/-! A text that is shown at 1, with two times that are no times: the first one is shown with it, the
second one resets. -/

def wheneverNode : Node := [("time", .str "whenever")]

def wheneverRoot : Node :=
  [("states", .arr [.obj wheneverNode, .obj (Keyed.insert "reset" (.bool true) wheneverNode)]),
   ("time", .int 1)]

/-- What the text unfolds to. -/
theorem exists_nested_whenever {tree : Moment .text} {after : Binding}
    (made : Makes Chart.empty Templates.empty none wheneverRoot tree after) :
    tree.token = some (Binary64.ofInt 1) ∧ ∃ shown hidden : Moment .text,
      tree.nested = [shown, hidden] ∧ shown.Malformed ∧ hidden.Malformed ∧
        State.resets shown.node = false ∧ State.resets hidden.node = true := by
  obtain ⟨variants, unfolded, walk⟩ := made.walked
  have children : Outline.children Chart.empty wheneverRoot =
      .ok [wheneverNode, Keyed.insert "reset" (.bool true) wheneverNode] :=
    Result.eq_ok_of_toOption (by decide +kernel)
  cases children.symm.trans unfolded
  have token : WrittenTime.resolve Chart.empty none (ownNote wheneverRoot)
      (Keyed.get? wheneverRoot "time") = .ok (some (Binary64.ofInt 1)) :=
    Result.eq_ok_of_toOption (by decide +kernel)
  refine ⟨Except.ok.inj (made.resolved.symm.trans token), ?_⟩
  generalize tree.nested = nested at walk
  cases walk with
  | entry merged resolved _ _ _ others =>
    cases merged
    cases others with
    | entry merged again _ _ _ done =>
      cases merged
      cases done
      have unread (binding : Binding) (node : Node)
          (same : Keyed.get? node "time" = some (.str "whenever")) :
          WrittenTime.resolve Chart.empty binding (ownNote node) (Keyed.get? node "time") =
            .ok none := by
        rw [same]
        rfl
      cases (unread _ _ rfl).symm.trans resolved
      cases (unread _ _ rfl).symm.trans again
      exact ⟨_, _, rfl, ⟨⟨_, rfl, nofun⟩, rfl, rfl, rfl⟩, ⟨⟨_, rfl, nofun⟩, rfl, rfl, rfl⟩,
        rfl, rfl⟩

theorem build_malformed_whenever :
    ∃ states, build .text Chart.empty Templates.empty none wheneverRoot = .ok (states, none) ∧
      ∃ tree : Moment .text, tree.node = wheneverRoot ∧ ∃ shown hidden : Moment .text,
        tree.nested = [shown, hidden] ∧ shown.Malformed ∧ hidden.Malformed ∧
          shown.state.time = Binary64.ofInt 1 ∧ hidden.state.time = never := by
  have computed : (build .text Chart.empty Templates.empty none wheneverRoot).toOption.map
      Prod.snd = some none := by
    decide +kernel
  obtain ⟨⟨states, bound⟩, given, rfl⟩ := Option.map_eq_some_iff.1 computed
  have built := Result.eq_ok_of_toOption given
  obtain ⟨tree, made, _, _, _, times⟩ := build_malformed built
  obtain ⟨token, shown, hidden, nested, first, second, kept, resets⟩ := exists_nested_whenever made
  have time : tree.state.time = Binary64.ofInt 1 := by rw [made.time_eq, token]; rfl
  have timed : tree.isTimed = true := by rw [Moment.isTimed, token]; rfl
  refine ⟨states, built, tree, made.node, shown, hidden, nested, first, second, ?_, ?_⟩
  · have inside : shown.Within tree := .deeper (nested ▸ List.mem_cons_self ..) (.refl shown)
    have way : Moment.WayBack tree shown (shown :: ([].reverse ++ [tree])) := .nested .root nested
    rw [((times shown inside first).2 _ way).1, kept, List.reverse_nil, List.nil_append,
      Moment.nearestTime_cons, timed]
    exact time
  · have inside : hidden.Within tree :=
      .deeper (nested ▸ List.mem_cons_of_mem _ (List.mem_cons_self ..)) (.refl hidden)
    obtain ⟨⟨back, way⟩, looking⟩ := times hidden inside second
    rw [(looking back way).1, resets]
    rfl

end Timeline
end Storyboard
