import Storyboard.Declaration.Timeline
import Storyboard.Proofs.Result

/-!
# Walks along declarations

The walk that builds the states of an object, as a relation between the declarations that stand
beside each other and the tree of moments that they become. A walk that succeeds takes a derivation
of this relation, whatever outline it went along, so what holds of the states of an object is shown
by induction on derivations.
-/
namespace Storyboard

/-- What a declaration became in a walk: the declaration laid over its templates, what its time
token came to, its state, and the moments below it. -/
structure Moment (category : Category) where
  node : Node
  token : Option Binary64
  state : State category
  nested : List (Moment category)

namespace Moment

variable {category : Category}

mutual

/-- A moment and all moments below it, in the order of the document. -/
def inOrder : Moment category → List (Moment category)
  | ⟨node, token, state, nested⟩ => ⟨node, token, state, nested⟩ :: allInOrder nested

def allInOrder : List (Moment category) → List (Moment category)
  | [] => []
  | moment :: rest => moment.inOrder ++ allInOrder rest

end

theorem inOrder_eq (moment : Moment category) :
    moment.inOrder = moment :: allInOrder moment.nested := by
  cases moment
  rw [inOrder]

/-- Whether a moment stands in a tree, at any depth. -/
inductive Within : Moment category → Moment category → Prop
  | refl (moment : Moment category) : Within moment moment
  | deeper {moment child tree : Moment category} (member : child ∈ tree.nested)
      (inside : Within moment child) : Within moment tree

theorem Within.cases_nested {moment tree : Moment category} (inside : moment.Within tree) :
    moment = tree ∨ ∃ child ∈ tree.nested, moment.Within child := by
  cases inside with
  | refl => exact .inl rfl
  | deeper member inside => exact .inr ⟨_, member, inside⟩

mutual

theorem within_of_mem_inOrder {moment : Moment category} :
    ∀ {tree : Moment category}, moment ∈ tree.inOrder → moment.Within tree
  | ⟨node, token, state, nested⟩, member => by
    rw [inOrder] at member
    rcases List.mem_cons.1 member with rfl | later
    · exact .refl _
    · obtain ⟨child, beside, inside⟩ := exists_of_mem_allInOrder later
      exact .deeper beside inside

theorem exists_of_mem_allInOrder {moment : Moment category} :
    ∀ {moments : List (Moment category)}, moment ∈ allInOrder moments →
      ∃ child ∈ moments, moment.Within child
  | [], member => by
    rw [allInOrder] at member
    cases member
  | head :: rest, member => by
    rw [allInOrder] at member
    rcases List.mem_append.1 member with inside | later
    · exact ⟨head, List.mem_cons_self .., within_of_mem_inOrder inside⟩
    · obtain ⟨child, beside, inside⟩ := exists_of_mem_allInOrder later
      exact ⟨child, List.mem_cons_of_mem _ beside, inside⟩

end

theorem mem_allInOrder {moment child : Moment category} {moments : List (Moment category)}
    (beside : child ∈ moments) (inside : moment ∈ child.inOrder) :
    moment ∈ allInOrder moments := by
  induction moments with
  | nil => cases beside
  | cons head rest ih =>
    rw [allInOrder]
    rcases List.mem_cons.1 beside with rfl | later
    · exact List.mem_append_left _ inside
    · exact List.mem_append_right _ (ih later)

theorem mem_inOrder_iff {moment tree : Moment category} :
    moment ∈ tree.inOrder ↔ moment.Within tree := by
  constructor
  · exact within_of_mem_inOrder
  · intro inside
    -- the way down from the root, one moment at a time
    induction inside with
    | refl =>
      rw [inOrder_eq]
      exact List.mem_cons_self ..
    | deeper member _ ih =>
      rw [inOrder_eq]
      exact List.mem_cons_of_mem _ (mem_allInOrder member ih)

/-- A tree unfolds its root if below every moment stand the declarations nested in it, fanned out
and laid over their templates. -/
def Unfolds (chart : Chart) (templates : Templates) (tree : Moment category) : Prop :=
  ∀ moment : Moment category, moment.Within tree → ∃ variants,
    Outline.children chart moment.node = .ok variants ∧
    variants.mapM templates.complete = .ok (moment.nested.map node)

theorem unfolds_of_nested {chart : Chart} {templates : Templates} {tree : Moment category}
    {variants : List Node} (unfolded : Outline.children chart tree.node = .ok variants)
    (merged : variants.mapM templates.complete = .ok (tree.nested.map node))
    (deeper : ∀ child ∈ tree.nested, child.Unfolds chart templates) :
    tree.Unfolds chart templates := by
  intro moment inside
  rcases inside.cases_nested with rfl | ⟨child, member, within⟩
  · exact ⟨variants, unfolded, merged⟩
  · exact deeper child member moment within

/-- What holds of every moment below the root of a tree, given its parent and the siblings in front
of it. -/
def Everywhere (holds : Moment category → List (Moment category) → Moment category → Prop)
    (tree : Moment category) : Prop :=
  ∀ parent : Moment category, parent.Within tree → ∀ earlier moment later,
    parent.nested = earlier ++ moment :: later → holds parent earlier moment

theorem everywhere_of_nested
    {holds : Moment category → List (Moment category) → Moment category → Prop}
    {tree : Moment category}
    (own : ∀ earlier moment later, tree.nested = earlier ++ moment :: later →
      holds tree earlier moment)
    (deeper : ∀ child ∈ tree.nested, child.Everywhere holds) : tree.Everywhere holds := by
  intro parent inside
  rcases inside.cases_nested with rfl | ⟨child, member, within⟩
  · exact own
  · exact deeper child member parent within

end Moment

namespace WrittenTime

/-- The time tokens of declarations, resolved one after the other, and what is bound after them. -/
def resolveAll (chart : Chart) :
    Binding → List Node → Except Fault (List (Option Binary64) × Binding)
  | binding, [] => .ok ([], binding)
  | binding, node :: rest => do
    let token := Keyed.get? node "time"
    let time ← resolve chart binding (ownNote node) token
    let (times, after) ← resolveAll chart (bindingAfter binding (ownNote node) token) rest
    return (time :: times, after)

variable {chart : Chart} {binding between after : Binding}

theorem resolveAll_cons {node : Node} {rest : List Node} {time : Option Binary64}
    {times : List (Option Binary64)}
    (first : resolve chart binding (ownNote node) (Keyed.get? node "time") = .ok time)
    (others : resolveAll chart (bindingAfter binding (ownNote node) (Keyed.get? node "time")) rest =
      .ok (times, after)) :
    resolveAll chart binding (node :: rest) = .ok (time :: times, after) := by
  simp only [resolveAll, first, others, bind, Except.bind, pure, Except.pure]

theorem resolveAll_append {left right : List Node} {times others : List (Option Binary64)}
    (first : resolveAll chart binding left = .ok (times, between))
    (second : resolveAll chart between right = .ok (others, after)) :
    resolveAll chart binding (left ++ right) = .ok (times ++ others, after) := by
  induction left generalizing binding times with
  | nil =>
    cases first
    exact second
  | cons node rest ih =>
    obtain ⟨time, resolved, tail⟩ := Result.bind_eq_ok_iff.1 first
    obtain ⟨⟨later, bound⟩, given, same⟩ := Result.bind_eq_ok_iff.1 tail
    cases same
    exact resolveAll_cons resolved (ih given)

end WrittenTime

namespace Cursor

variable {category : Category}

/-- Where a walk stands when it goes below the declaration of an object. -/
def ofRoot (binding : Binding) (root : Node) (token : Option Binary64)
    (state : State category) : Cursor category where
  base := token.getD never
  last := state
  binding := WrittenTime.bindingAfter binding (ownNote root) (Keyed.get? root "time")

/-- Where a walk stands when it goes below a declaration. -/
def into (cursor : Cursor category) (rootTime : Option Binary64) (node : Node)
    (token : Option Binary64) (state : State category) : Cursor category where
  base := (token.or rootTime).getD never
  last := state
  binding := WrittenTime.bindingAfter cursor.binding (ownNote node) (Keyed.get? node "time")

/-- Where a walk stands when it has passed a declaration and what is below it. -/
def past (cursor : Cursor category) (token : Option Binary64) (state : State category)
    (binding : Binding) : Cursor category where
  base := token.getD cursor.base
  last := state
  binding

/-- A state at the time that the walk gives it. -/
def place (cursor : Cursor category) (token : Option Binary64) (state : State category) :
    State category :=
  { state with time := cursor.timeOf token state }

end Cursor

/-- The walk along declarations that stand beside each other, not yet laid over their templates:
from where it starts to the moments it makes and what is bound after them. -/
inductive Walk {category : Category} (chart : Chart) (templates : Templates)
    (rootTime : Option Binary64) :
    Cursor category → List Node → List (Moment category) → Binding → Prop
  | done (cursor : Cursor category) : Walk chart templates rootTime cursor [] [] cursor.binding
  | entry {cursor : Cursor category} {variant node : Node} {rest variants : List Node}
      {token : Option Binary64} {state : State category} {nested moments : List (Moment category)}
      {between after : Binding}
      (merged : templates.complete variant = .ok node)
      (resolved : WrittenTime.resolve chart cursor.binding (ownNote node)
        (Keyed.get? node "time") = .ok token)
      (followed : State.follow (some cursor.last) node = .ok state)
      (unfolded : Outline.children chart node = .ok variants)
      (inner : Walk chart templates rootTime
        (cursor.into rootTime node token (cursor.place token state)) variants nested between)
      (outer : Walk chart templates rootTime
        (cursor.past token (cursor.place token state) between) rest moments after) :
      Walk chart templates rootTime cursor (variant :: rest)
        (⟨node, token, cursor.place token state, nested⟩ :: moments) after

section

variable {category : Category} {chart : Chart} {templates : Templates}
  {rootTime : Option Binary64}

namespace Walk

variable {cursor : Cursor category} {variants : List Node} {moments : List (Moment category)}
  {after : Binding}

theorem mapM_complete (walk : Walk chart templates rootTime cursor variants moments after) :
    variants.mapM templates.complete = .ok (moments.map Moment.node) := by
  induction walk with
  | done => rfl
  | entry merged _ _ _ _ _ _ ih =>
    rw [Result.mapM_eq_ok_iff] at ih ⊢
    exact .cons merged ih

theorem unfolds (walk : Walk chart templates rootTime cursor variants moments after) :
    ∀ moment ∈ moments, moment.Unfolds chart templates := by
  induction walk with
  | done => simp
  | entry _ _ _ unfolded inner _ deeper others =>
    intro moment member
    rcases List.mem_cons.1 member with rfl | later
    · exact Moment.unfolds_of_nested unfolded inner.mapM_complete deeper
    · exact others moment later

theorem resolveAll (walk : Walk chart templates rootTime cursor variants moments after) :
    WrittenTime.resolveAll chart cursor.binding ((Moment.allInOrder moments).map Moment.node) =
      .ok ((Moment.allInOrder moments).map Moment.token, after) := by
  induction walk with
  | done => rfl
  | entry _ resolved _ _ _ _ deeper others =>
    -- what is below a declaration is resolved before the siblings that come next
    rw [Moment.allInOrder, Moment.inOrder_eq, List.cons_append, List.map_cons, List.map_cons,
      List.map_append, List.map_append]
    exact WrittenTime.resolveAll_cons resolved (WrittenTime.resolveAll_append deeper others)

/-- What a walk carries along fits a place, given as a parent and the siblings in front, if every
step from there makes a moment of which something holds, and fits again below that moment and
behind it. What holds at each step then holds everywhere. -/
theorem everywhere
    (holds : Moment category → List (Moment category) → Moment category → Prop)
    (fits : Cursor category → Moment category → List (Moment category) → Prop)
    (step : ∀ (cursor : Cursor category) (parent : Moment category)
      (earlier : List (Moment category)) (node : Node) (token : Option Binary64)
      (state : State category) (nested : List (Moment category)) (between : Binding),
      fits cursor parent earlier → State.follow (some cursor.last) node = .ok state →
      holds parent earlier ⟨node, token, cursor.place token state, nested⟩ ∧
      fits (cursor.into rootTime node token (cursor.place token state))
        ⟨node, token, cursor.place token state, nested⟩ [] ∧
      fits (cursor.past token (cursor.place token state) between) parent
        (earlier ++ [⟨node, token, cursor.place token state, nested⟩]))
    (walk : Walk chart templates rootTime cursor variants moments after)
    (parent : Moment category) (earlier : List (Moment category))
    (start : fits cursor parent earlier) :
    (∀ before moment later, moments = before ++ moment :: later →
      holds parent (earlier ++ before) moment) ∧
    ∀ moment ∈ moments, moment.Everywhere holds := by
  induction walk generalizing parent earlier with
  | done => simp
  | @entry cursor _ node rest _ token state nested moments between _ _ _ followed _ _ _ deeper
      others =>
    obtain ⟨head, below, behind⟩ :=
      step cursor parent earlier node token state nested between start followed
    -- below the head nothing is in front yet, so the head itself takes over
    have inside := deeper _ [] below
    have beside := others parent _ behind
    constructor
    · intro before moment later same
      rcases List.cons_eq_append_iff.1 same with ⟨rfl, split⟩ | ⟨front, rfl, split⟩
      · cases split
        rw [List.append_nil]
        exact head
      · rw [List.append_cons]
        exact beside.1 front moment later split
    · intro moment member
      rcases List.mem_cons.1 member with rfl | later
      · exact Moment.everywhere_of_nested inside.1 inside.2
      · exact beside.2 moment later

end Walk

namespace Outline

theorem states_entry (rootTime : Option Binary64) (cursor : Cursor category) (node : Node)
    (below next : Unit → Outline) :
    (entry node below next).states chart rootTime cursor = (do
      let time ← (WrittenTime.resolve chart cursor.binding (ownNote node)
        (Keyed.get? node "time")).mapError .failed
      let state ← (State.follow (some cursor.last) node).mapError .failed
      let (nested, between) ← (below ()).states chart rootTime
        (cursor.into rootTime node time (cursor.place time state))
      let (others, after) ← (next ()).states chart rootTime
        (cursor.past time (cursor.place time state) between)
      return (cursor.place time state :: (nested ++ others), after)) :=
  rfl

/-- Going along siblings is a walk, if going along what is below each of them is one. -/
theorem walk_of_siblings {below : Node → Outline}
    (deeper : ∀ node (cursor : Cursor category) states after,
      (below node).states chart rootTime cursor = .ok (states, after) →
      ∃ variants moments, children chart node = .ok variants ∧
        Walk chart templates rootTime cursor variants moments after ∧
        states = (Moment.allInOrder moments).map Moment.state)
    {variants : List Node} {cursor : Cursor category} {states : List (State category)}
    {after : Binding}
    (walked : (siblings templates below variants).states chart rootTime cursor =
      .ok (states, after)) :
    ∃ moments, Walk chart templates rootTime cursor variants moments after ∧
      states = (Moment.allInOrder moments).map Moment.state := by
  induction variants generalizing cursor states after with
  | nil =>
    cases walked
    exact ⟨[], .done cursor, rfl⟩
  | cons variant rest ih =>
    cases merged : templates.complete variant with
    | error fault => simp [siblings, merged, Outline.states] at walked
    | ok node =>
      simp only [siblings, merged, states_entry] at walked
      obtain ⟨token, resolved, walked⟩ := Result.mapError_bind_eq_ok_iff.1 walked
      obtain ⟨state, followed, walked⟩ := Result.mapError_bind_eq_ok_iff.1 walked
      obtain ⟨⟨nestedStates, between⟩, inside, walked⟩ := Result.bind_eq_ok_iff.1 walked
      obtain ⟨⟨others, last⟩, beside, same⟩ := Result.bind_eq_ok_iff.1 walked
      cases same
      -- the moments of the variant come first, then those below it, then those of its siblings
      obtain ⟨nested, moments, unfolded, inner, rfl⟩ := deeper _ _ _ _ inside
      obtain ⟨siblings, outer, rfl⟩ := ih beside
      refine ⟨_, .entry merged resolved followed unfolded inner outer, ?_⟩
      rw [Moment.allInOrder, Moment.inOrder_eq, List.cons_append, List.map_cons, List.map_append]

/-- Going along what is nested in a declaration is a walk, however many levels there is room
for. -/
theorem walk_of_nested {levels : Nat} {node : Node} {cursor : Cursor category}
    {states : List (State category)} {after : Binding}
    (walked : (nested chart templates levels node).states chart rootTime cursor =
      .ok (states, after)) :
    ∃ variants moments, children chart node = .ok variants ∧
      Walk chart templates rootTime cursor variants moments after ∧
      states = (Moment.allInOrder moments).map Moment.state := by
  induction levels generalizing node cursor states after with
  | zero =>
    -- without room for another level, only a declaration with nothing nested in it is walked
    cases unfolded : children chart node with
    | error fault => simp [nested, unfolded, Outline.states] at walked
    | ok variants =>
      cases variants with
      | nil =>
        simp only [nested, unfolded] at walked
        cases walked
        exact ⟨[], [], rfl, .done cursor, rfl⟩
      | cons variant rest => simp [nested, unfolded, Outline.states] at walked
  | succ levels ih =>
    cases unfolded : children chart node with
    | error fault => simp [nested, unfolded, Outline.states] at walked
    | ok variants =>
      simp only [nested, unfolded] at walked
      obtain ⟨moments, walk, same⟩ := walk_of_siblings (fun _ _ _ _ => ih) walked
      exact ⟨variants, moments, rfl, walk, same⟩

end Outline

namespace Timeline

/-- The tree that the declaration of an object becomes, and what is bound after it. -/
structure Makes (chart : Chart) (templates : Templates) (binding : Binding) (root : Node)
    (tree : Moment category) (after : Binding) : Prop where
  node : tree.node = root
  resolved : WrittenTime.resolve chart binding (ownNote root) (Keyed.get? root "time") =
    .ok tree.token
  followed : ∃ first, State.follow none root = .ok first ∧
    tree.state = { first with time := tree.token.getD never }
  walked : ∃ variants, Outline.children chart root = .ok variants ∧
    Walk chart templates tree.token (.ofRoot binding root tree.token tree.state) variants
      tree.nested after

theorem inOrder_eq (binding : Binding) (root : Node) :
    inOrder category chart templates binding root = (do
      let time ← (WrittenTime.resolve chart binding (ownNote root)
        (Keyed.get? root "time")).mapError .failed
      let first ← (State.follow none root).mapError .failed
      let (nested, after) ← (Outline.ofNode chart templates root).states chart time
        (Cursor.ofRoot binding root time { first with time := time.getD never })
      return ({ first with time := time.getD never } :: nested, after)) :=
  rfl

theorem exists_makes_of_inOrder {binding after : Binding} {root : Node}
    {states : List (State category)}
    (made : inOrder category chart templates binding root = .ok (states, after)) :
    ∃ tree : Moment category, Makes chart templates binding root tree after ∧
      states = tree.inOrder.map Moment.state := by
  rw [inOrder_eq] at made
  obtain ⟨token, resolved, made⟩ := Result.mapError_bind_eq_ok_iff.1 made
  obtain ⟨first, followed, made⟩ := Result.mapError_bind_eq_ok_iff.1 made
  obtain ⟨⟨nested, last⟩, walked, same⟩ := Result.bind_eq_ok_iff.1 made
  cases same
  obtain ⟨variants, moments, unfolded, walk, rfl⟩ := Outline.walk_of_nested walked
  refine ⟨⟨root, token, { first with time := token.getD never }, moments⟩, ?_, ?_⟩
  · exact ⟨rfl, resolved, ⟨first, followed, rfl⟩, ⟨variants, unfolded, walk⟩⟩
  · rw [Moment.inOrder_eq, List.map_cons]

/-- The states of an object are those of a tree, sorted by time. -/
theorem exists_makes_of_build {binding after : Binding} {root : Node}
    {states : List (State category)}
    (built : build category chart templates binding root = .ok (states, after)) :
    ∃ tree : Moment category, Makes chart templates binding root tree after ∧
      inOrder category chart templates binding root =
        .ok (tree.inOrder.map Moment.state, after) ∧
      states = (tree.inOrder.map Moment.state).mergeSort State.timeLe := by
  obtain ⟨⟨ordered, bound⟩, walked, same⟩ := Result.bind_eq_ok_iff.1 built
  cases same
  obtain ⟨tree, made, rfl⟩ := exists_makes_of_inOrder walked
  exact ⟨tree, made, walked, rfl⟩

namespace Makes

variable {binding after : Binding} {root : Node} {tree : Moment category}

theorem unfolds (made : Makes chart templates binding root tree after) :
    tree.Unfolds chart templates := by
  obtain ⟨variants, unfolded, walk⟩ := made.walked
  rw [← made.node] at unfolded
  exact Moment.unfolds_of_nested unfolded walk.mapM_complete walk.unfolds

theorem resolveAll (made : Makes chart templates binding root tree after) :
    WrittenTime.resolveAll chart binding (tree.inOrder.map Moment.node) =
      .ok (tree.inOrder.map Moment.token, after) := by
  obtain ⟨variants, _, walk⟩ := made.walked
  rw [Moment.inOrder_eq, List.map_cons, List.map_cons, made.node]
  exact WrittenTime.resolveAll_cons made.resolved walk.resolveAll

end Makes
end Timeline
end

end Storyboard
