import Mathlib.Data.List.Induction
import Storyboard.Proofs.Walk

/-!
# Times of states

The time of a state, read off the tree of an object by looking back: at the token of the declaration
itself, at the tokens of its siblings in front, its parent and the root, and at the state right in
front of it. A walk carries a base and a last state along in place of what is behind it, and the
invariant says that they are the same (`Walk.timed`).
-/
namespace Storyboard

namespace Moment

variable {category : Category}

/-- The last time that a token came to among moments beside each other. -/
def lastToken (moments : List (Moment category)) : Option Binary64 :=
  (moments.filterMap token).getLast?

theorem lastToken_concat (moments : List (Moment category)) (moment : Moment category) :
    lastToken (moments ++ [moment]) = moment.token.or (lastToken moments) := by
  unfold lastToken
  rw [List.filterMap_append, List.getLast?_append]
  cases found : moment.token with
  | none => simp [found]
  | some time => simp [found]

theorem lastToken_eq_none {moments : List (Moment category)}
    (bare : ∀ moment ∈ moments, moment.token = none) : lastToken moments = none := by
  rw [lastToken, List.filterMap_eq_nil_iff.2 bare]
  rfl

section

variable (rootTime : Option Binary64) (parent : Moment category)
  (earlier : List (Moment category))

/-- What the relative time of a declaration counts from: the last token of the siblings in front of
it, or else the token of its parent, or else that of the root. -/
def baseOf : Binary64 := (((lastToken earlier).or parent.token).or rootTime).getD never

/-- The time of the state in front of a declaration: that of the sibling in front of it, or else of
its parent. -/
def timeInFront : Binary64 := (earlier.getLast?.getD parent).state.time

/-- The time of a declaration, given what is in front of it. -/
def timeFrom (moment : Moment category) : Binary64 :=
  match moment.token, State.numberIn moment.node "relative_time",
    State.numberIn moment.node "add_time" with
  | some time, _, _ => time
  | none, some seconds, _ => shift (baseOf rootTime parent earlier) seconds
  | none, none, some seconds => shift (timeInFront parent earlier) seconds
  | none, none, none =>
    if State.resets moment.node then never else timeInFront parent earlier

theorem timeInFront_concat (moment : Moment category) :
    timeInFront parent (earlier ++ [moment]) = moment.state.time := by
  rw [timeInFront, List.getLast?_concat, Option.getD_some]

theorem baseOf_concat (moment : Moment category) :
    baseOf rootTime parent (earlier ++ [moment]) =
      moment.token.getD (baseOf rootTime parent earlier) := by
  rw [baseOf, lastToken_concat]
  -- a token of the new sibling hides all others
  cases moment.token with
  | none => rfl
  | some time => rfl

/-- Right below the root, relative times count from its token. -/
theorem baseOf_root : baseOf parent.token parent [] = parent.token.getD never := by
  cases found : parent.token with
  | none => simp [baseOf, lastToken, found]
  | some time => simp [baseOf, lastToken, found]

theorem shift_never (seconds : Finite64) : shift never seconds = never := if_pos rfl

theorem timeFrom_eq_never {moment : Moment category} (bare : moment.token = none)
    (base : baseOf rootTime parent earlier = never) (front : timeInFront parent earlier = never) :
    timeFrom rootTime parent earlier moment = never := by
  rw [timeFrom, bare, base, front]
  cases State.numberIn moment.node "relative_time" with
  | some seconds => exact shift_never seconds
  | none =>
    cases State.numberIn moment.node "add_time" with
    | some seconds => exact shift_never seconds
    | none => exact ite_self never

end

/-- A tree is timed if every moment below its root has the time that looking back gives. -/
def Timed (rootTime : Option Binary64) (tree : Moment category) : Prop :=
  ∀ parent : Moment category, parent.Within tree → ∀ earlier moment later,
    parent.nested = earlier ++ moment :: later →
    moment.state.time = timeFrom rootTime parent earlier moment

theorem timed_of_nested {rootTime : Option Binary64} {tree : Moment category}
    (own : ∀ earlier moment later, tree.nested = earlier ++ moment :: later →
      moment.state.time = timeFrom rootTime tree earlier moment)
    (deeper : ∀ child ∈ tree.nested, child.Timed rootTime) : tree.Timed rootTime :=
  everywhere_of_nested own deeper

end Moment

namespace State

variable {category : Category}

/-- What the times of a state are before it is placed. -/
theorem times_of_follow {last state : State category} {node : Node}
    (followed : follow (some last) node = .ok state) :
    state.relativeTime = numberIn node "relative_time" ∧
    state.addTime = numberIn node "add_time" ∧
    state.time = if resets node then never else last.time := by
  obtain ⟨patch, _, same⟩ := Result.bind_eq_ok_iff.1 followed
  cases same
  refine ⟨rfl, rfl, ?_⟩
  split
  · rfl
  · rfl

end State

variable {category : Category} {chart : Chart} {templates : Templates}
  {rootTime : Option Binary64}

/-- The time that a walk gives a declaration is the one that looking back gives it, if what the
walk carries along is what is behind it. -/
theorem Cursor.time_place {cursor : Cursor category} {node : Node} {token : Option Binary64}
    {state : State category} {parent : Moment category} {earlier nested : List (Moment category)}
    (followed : State.follow (some cursor.last) node = .ok state)
    (base : cursor.base = Moment.baseOf rootTime parent earlier)
    (front : cursor.last.time = Moment.timeInFront parent earlier) :
    (cursor.place token state).time =
      Moment.timeFrom rootTime parent earlier ⟨node, token, cursor.place token state, nested⟩ := by
  obtain ⟨relative, add, time⟩ := State.times_of_follow followed
  cases token with
  | some time => rfl
  | none =>
    cases counted : State.numberIn node "relative_time" with
    | some seconds =>
      simp only [Cursor.place, Cursor.timeOf, Moment.timeFrom, relative, counted, base]
    | none =>
      cases added : State.numberIn node "add_time" with
      | some seconds =>
        simp only [Cursor.place, Cursor.timeOf, Moment.timeFrom, relative, counted, add, added,
          front]
      | none =>
        simp only [Cursor.place, Cursor.timeOf, Moment.timeFrom, relative, counted, add, added,
          time, front]

theorem Walk.timed {cursor : Cursor category} {variants : List Node}
    {moments : List (Moment category)} {after : Binding}
    (walk : Walk chart templates rootTime cursor variants moments after)
    (parent : Moment category) (earlier : List (Moment category))
    (base : cursor.base = Moment.baseOf rootTime parent earlier)
    (front : cursor.last.time = Moment.timeInFront parent earlier) :
    (∀ before moment later, moments = before ++ moment :: later →
      moment.state.time = Moment.timeFrom rootTime parent (earlier ++ before) moment) ∧
    ∀ moment ∈ moments, moment.Timed rootTime := by
  -- what is carried along in place of what is behind: a base and a last state
  let fits (cursor : Cursor category) (parent : Moment category)
      (earlier : List (Moment category)) : Prop :=
    cursor.base = Moment.baseOf rootTime parent earlier ∧
      cursor.last.time = Moment.timeInFront parent earlier
  let holds (parent : Moment category) (earlier : List (Moment category))
      (moment : Moment category) : Prop :=
    moment.state.time = Moment.timeFrom rootTime parent earlier moment
  refine walk.everywhere holds fits ?_ parent earlier ⟨base, front⟩
  rintro cursor parent earlier node token state nested between ⟨base, front⟩ followed
  refine ⟨Cursor.time_place followed base front, ⟨rfl, rfl⟩, ?_, ?_⟩
  · rw [Moment.baseOf_concat, ← base]
    rfl
  · rw [Moment.timeInFront_concat]
    rfl

namespace Timeline

variable {binding after : Binding} {root : Node}

theorem Makes.time_eq {tree : Moment category}
    (made : Makes chart templates binding root tree after) :
    tree.state.time = tree.token.getD never := by
  obtain ⟨first, _, placed⟩ := made.followed
  rw [placed]

theorem Makes.timed {tree : Moment category}
    (made : Makes chart templates binding root tree after) : tree.Timed tree.token := by
  obtain ⟨variants, _, walk⟩ := made.walked
  -- right below the root nothing is in front yet
  have below := walk.timed tree [] (Moment.baseOf_root tree).symm rfl
  exact Moment.timed_of_nested below.1 below.2

end Timeline

namespace Moment

/-- Where no token comes to a time, the times below a state that is never shown are no times
either. -/
theorem Timed.never_of_nested {parent : Moment category} (bare : parent.token = none)
    (hidden : parent.state.time = never)
    (others : ∀ child ∈ parent.nested, child.token = none)
    (timed : ∀ earlier moment later, parent.nested = earlier ++ moment :: later →
      moment.state.time = timeFrom none parent earlier moment) :
    ∀ moment ∈ parent.nested, moment.state.time = never := by
  have along : ∀ earlier moment later, parent.nested = earlier ++ moment :: later →
      moment.state.time = never := by
    intro earlier
    -- from the first sibling on, since each takes over the time of the one in front
    induction earlier using List.reverseRecOn with
    | nil =>
      intro moment later same
      rw [timed [] moment later same]
      apply timeFrom_eq_never
      · exact others moment (by simp [same])
      · rw [baseOf, bare]
        rfl
      · exact hidden
    | append_singleton earlier front ih =>
      intro moment later same
      rw [timed _ moment later same]
      apply timeFrom_eq_never
      · exact others moment (by simp [same])
      · rw [baseOf, bare, lastToken_eq_none]
        · rfl
        · intro sibling member
          exact others sibling (by rw [same]; exact List.mem_append_left _ member)
      · rw [timeInFront_concat]
        exact ih front (moment :: later) (by rw [same, List.append_assoc]; rfl)
  intro moment member
  obtain ⟨earlier, later, same⟩ := List.append_of_mem member
  exact along earlier moment later same

theorem Timed.never_within {moment tree : Moment category} (inside : moment.Within tree)
    (timed : tree.Timed none) (hidden : tree.state.time = never)
    (bare : ∀ other : Moment category, other.Within tree → other.token = none) :
    moment.state.time = never := by
  induction inside with
  | refl => exact hidden
  | @deeper child tree member _ ih =>
    apply ih
    · exact fun parent within => timed parent (.deeper member within)
    · refine Timed.never_of_nested (bare tree (.refl tree)) hidden ?_ (timed tree (.refl tree))
        child member
      exact fun sibling beside => bare sibling (.deeper beside (.refl sibling))
    · exact fun other within => bare other (.deeper member within)

end Moment

namespace Timeline

/-- **Times of states.** If the states of an object can be built, they are those of the tree that
its declaration unfolds to, in the order of the document and then sorted by time, and every time
token of the tree is resolved in the order of the document. The state of the root has the time of
its token, or else is never shown. Every other state, at any depth, has the time that looking back
gives it (`Moment.timeFrom`), to which nothing nested in a sibling contributes. Where no token comes
to a time, no state is ever shown. -/
theorem build_times {binding after : Binding} {root : Node} {states : List (State category)}
    (built : build category chart templates binding root = .ok (states, after)) :
    ∃ tree : Moment category,
      tree.node = root ∧
      tree.Unfolds chart templates ∧
      inOrder category chart templates binding root =
        .ok (tree.inOrder.map Moment.state, after) ∧
      states = (tree.inOrder.map Moment.state).mergeSort State.timeLe ∧
      WrittenTime.resolveAll chart binding (tree.inOrder.map Moment.node) =
        .ok (tree.inOrder.map Moment.token, after) ∧
      tree.state.time = tree.token.getD never ∧
      (∀ parent : Moment category, parent.Within tree → ∀ earlier moment later,
        parent.nested = earlier ++ moment :: later →
        moment.state.time = Moment.timeFrom tree.token parent earlier moment) ∧
      ((∀ moment : Moment category, moment.Within tree → moment.token = none) →
        ∀ state ∈ states, state.time = never) := by
  obtain ⟨tree, made, walked, rfl⟩ := exists_makes_of_build built
  have start := made.time_eq
  refine ⟨tree, made.node, made.unfolds, walked, rfl, made.resolveAll, start, made.timed, ?_⟩
  intro bare state member
  -- the sort moves states around but makes none, so the state is that of a moment of the tree
  have bareRoot : tree.token = none := bare tree (.refl tree)
  have timed := made.timed
  rw [bareRoot] at start timed
  obtain ⟨moment, inside, rfl⟩ := List.mem_map.1 (List.mem_mergeSort.1 member)
  exact Moment.Timed.never_within (Moment.mem_inOrder_iff.1 inside) timed start bare

/-! A text that is shown at 2, with a relative time before and after a nested token: the second one
counts from the token of its sibling, not from the one nested there. -/

def sampleRoot : Node :=
  [("states", .arr
      [.obj [("relative_time", .int 1)],
       .obj [("states", .arr [.obj [("time", .int 40)]]), ("time", .int 10)],
       .obj [("relative_time", .int 5)],
       .obj [("add_time", .int 3)],
       .obj [("reset", .bool true)]]),
   ("time", .int 2)]

theorem build_times_sample :
    ∃ states, build .text Chart.empty Templates.empty none sampleRoot = .ok (states, none) ∧
      ∃ tree : Moment .text, tree.node = sampleRoot ∧
        tree.state.time = tree.token.getD never ∧
        (tree.inOrder.map fun moment => moment.state.time) =
          [2, 3, 10, 40, 15, 18].map Binary64.ofInt ++ [never] := by
  have computed :
      (inOrder .text Chart.empty Templates.empty none sampleRoot).toOption.map
          (fun made => (made.1.map State.time, made.2)) =
        some ([2, 3, 10, 40, 15, 18].map Binary64.ofInt ++ [never], none) := by
    decide +kernel
  obtain ⟨⟨ordered, bound⟩, given, times⟩ := Option.map_eq_some_iff.1 computed
  obtain ⟨times, rfl⟩ := Prod.mk.inj times
  have walked := Result.eq_ok_of_toOption given
  have built : build .text Chart.empty Templates.empty none sampleRoot =
      .ok (ordered.mergeSort State.timeLe, none) := by
    rw [build, walked]
    rfl
  obtain ⟨tree, root, _, again, _, _, start, _⟩ := build_times built
  rw [walked] at again
  cases again
  rw [List.map_map] at times
  exact ⟨_, built, tree, root, start, times⟩

end Timeline
end Storyboard
