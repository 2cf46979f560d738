import Storyboard.Proofs.LoadedObjects
import Storyboard.Proofs.Sorting
import Storyboard.Proofs.Walk

/-!
# The order of states

The states of an object are those of the tree that its declaration unfolds to, one for each
declaration, put in order by time. Sorting is stable, so states of one time stay in the order of
the document; states without any time share the time `never`, so ties are common.
-/
namespace Storyboard

variable {category : Category} {chart : Chart} {templates : Templates}

/-! ## One state for each declaration -/

namespace Outline

/-- An outline is whole if nothing in it is broken. -/
inductive Whole : Outline → Prop
  | done : Whole .done
  | entry {node : Node} {below next : Unit → Outline} (inner : Whole (below ()))
      (outer : Whole (next ())) : Whole (.entry node below next)

/-- A walk only comes to its end along an outline that is whole. -/
theorem whole_of_states {rootTime : Option Binary64} {outline : Outline}
    {cursor : Cursor category} {states : List (State category)} {after : Binding}
    (walked : outline.states chart rootTime cursor = .ok (states, after)) : outline.Whole := by
  induction outline generalizing cursor states after with
  | done => exact .done
  | broken fault => cases walked
  | entry node below next inner outer =>
    rw [states_entry] at walked
    obtain ⟨token, _, walked⟩ := Result.bind_eq_ok_iff.1 walked
    obtain ⟨state, _, walked⟩ := Result.bind_eq_ok_iff.1 walked
    obtain ⟨⟨nested, between⟩, inside, walked⟩ := Result.bind_eq_ok_iff.1 walked
    obtain ⟨⟨others, last⟩, beside, _⟩ := Result.bind_eq_ok_iff.1 walked
    exact .entry (inner () inside) (outer () beside)

/-- The declarations of whole siblings are those that they become, each before those below it. -/
theorem nodes_siblings {below : Node → Outline} {variants : List Node}
    {moments : List (Moment category)} (whole : (siblings templates below variants).Whole)
    (merged : variants.mapM templates.complete = .ok (moments.map Moment.node))
    (deeper : ∀ moment ∈ moments, (below moment.node).Whole →
      (below moment.node).nodes = (Moment.allInOrder moment.nested).map Moment.node) :
    (siblings templates below variants).nodes =
      (Moment.allInOrder moments).map Moment.node := by
  rw [Result.mapM_eq_ok_iff] at merged
  induction moments generalizing variants with
  | nil =>
    cases merged
    rfl
  | cons moment rest ih =>
    obtain ⟨variant, others, first, later, rfl⟩ := List.forall₂_cons_right_iff.1 merged
    simp only [siblings, first] at whole ⊢
    cases whole with
    | entry inner outer =>
      rw [nodes, deeper moment (List.mem_cons_self ..) inner,
        ih outer later fun other member => deeper other (List.mem_cons_of_mem _ member),
        Moment.allInOrder, Moment.inOrder_eq, List.map_append, List.map_cons, List.cons_append]

/-- The declarations of a whole outline are those of the tree that it unfolds to. -/
theorem nodes_nested {levels : Nat} {tree : Moment category}
    (whole : (nested chart templates levels tree.node).Whole)
    (unfolds : tree.Unfolds chart templates) :
    (nested chart templates levels tree.node).nodes =
      (Moment.allInOrder tree.nested).map Moment.node := by
  induction levels generalizing tree with
  | zero =>
    -- without room for another level, only what nests nothing is whole
    obtain ⟨variants, unfolded, merged⟩ := unfolds tree (.refl tree)
    cases variants with
    | nil =>
      have bare : tree.nested = [] := List.map_eq_nil_iff.1 (Except.ok.inj merged).symm
      simp only [nested, unfolded, bare]
      rfl
    | cons variant rest =>
      simp only [nested, unfolded] at whole
      cases whole
  | succ levels ih =>
    obtain ⟨variants, unfolded, merged⟩ := unfolds tree (.refl tree)
    simp only [nested, unfolded] at whole ⊢
    exact nodes_siblings whole merged fun moment member inner =>
      ih inner fun other inside => unfolds other (.deeper member inside)

end Outline

namespace Timeline

variable {binding after : Binding} {root : Node} {tree : Moment category}

/-- The declarations of the tree that an object becomes are its own and those of its outline. -/
theorem Makes.nodes_eq (made : Makes chart templates binding root tree after)
    (whole : (Outline.ofNode chart templates root).Whole) :
    tree.inOrder.map Moment.node = root :: (Outline.ofNode chart templates root).nodes := by
  have same := made.node
  subst same
  rw [Moment.inOrder_eq, List.map_cons, Outline.ofNode, Outline.nodes_nested whole made.unfolds]

theorem whole_of_inOrder {states : List (State category)}
    (walked : inOrder category chart templates binding root = .ok (states, after)) :
    (Outline.ofNode chart templates root).Whole := by
  rw [inOrder_eq] at walked
  obtain ⟨token, _, walked⟩ := Result.bind_eq_ok_iff.1 walked
  obtain ⟨first, _, walked⟩ := Result.bind_eq_ok_iff.1 walked
  obtain ⟨⟨nested, last⟩, walked, _⟩ := Result.bind_eq_ok_iff.1 walked
  exact Outline.whole_of_states walked

end Timeline

/-! ## Sorting by time -/

namespace State

/-- Sorting leaves the states of one time in their order. -/
theorem filter_mergeSort (states : List (State category)) (time : Binary64) :
    (states.mergeSort State.timeLe).filter (·.time = time) = states.filter (·.time = time) := by
  refine Sorting.filter_mergeSort timeLe_trans timeLe_total ?_ states
  intro a b left right
  rw [decide_eq_true_eq] at left right
  rw [timeLe, left, right, Binary64.totalLe]
  exact decide_eq_true (Int.le_refl time.key)

/-- A state that is sorted in comes behind those of earlier times and in front of all others. -/
theorem mergeSort_cons (state : State category) (states : List (State category)) :
    (state :: states).mergeSort State.timeLe =
      (states.mergeSort State.timeLe).filter (fun other => !state.timeLe other) ++
        state :: (states.mergeSort State.timeLe).filter (fun other => state.timeLe other) := by
  obtain ⟨front, back, whole, rest, earlier⟩ :=
    List.mergeSort_cons State.timeLe_trans State.timeLe_total state states
  have sorted := List.pairwise_mergeSort State.timeLe_trans State.timeLe_total (state :: states)
  rw [whole, List.pairwise_append, List.pairwise_cons] at sorted
  obtain ⟨_, ⟨later, _⟩, _⟩ := sorted
  rw [whole, rest, List.filter_append, List.filter_append]
  have frontKept : front.filter (fun other => !state.timeLe other) = front :=
    List.filter_eq_self.2 earlier
  have backGone : back.filter (fun other => !state.timeLe other) = [] := by
    apply List.filter_eq_nil_iff.2
    intro other member
    simp [later other member]
  have frontGone : front.filter (fun other => state.timeLe other) = [] := by
    apply List.filter_eq_nil_iff.2
    intro other member
    simpa using earlier other member
  have backKept : back.filter (fun other => state.timeLe other) = back :=
    List.filter_eq_self.2 later
  rw [frontKept, backGone, frontGone, backKept, List.append_nil, List.nil_append]

/-- Where some states are left out, the others stay in the same order when they are sorted. -/
theorem sublist_mergeSort {fewer states : List (State category)} (kept : fewer.Sublist states) :
    (fewer.mergeSort State.timeLe).Sublist (states.mergeSort State.timeLe) := by
  induction kept with
  | slnil => exact List.Sublist.refl _
  | cons state _ ih =>
    obtain ⟨front, back, whole, rest, _⟩ :=
      List.mergeSort_cons State.timeLe_trans State.timeLe_total state _
    rw [whole]
    rw [rest] at ih
    exact ih.trans ((List.sublist_cons_self state back).append_left front)
  | cons_cons state _ ih =>
    -- the state that both have divides them in the same way
    rw [mergeSort_cons, mergeSort_cons]
    exact (ih.filter _).append ((ih.filter _).cons_cons state)

end State

namespace Timeline

/-- **The order of states.** If the states of an object can be built, they are those of the tree
that its declaration unfolds to: one state for the declaration, and then one for each declaration
nested below it, fanned out and laid over its templates, each followed by those nested in it. What
is returned is that sequence sorted by time and stable: no state is lost or made twice, there is
one for the root and one for every declaration of the outline, they are in the total order of
their times, and those of the same time are in the order of the document. -/
theorem build_sorts {binding after : Binding} {root : Node} {states : List (State category)}
    (built : build category chart templates binding root = .ok (states, after)) :
    ∃ tree : Moment category,
      Makes chart templates binding root tree after ∧
      tree.Unfolds chart templates ∧
      tree.inOrder.map Moment.node = root :: (Outline.ofNode chart templates root).nodes ∧
      states = (tree.inOrder.map Moment.state).mergeSort State.timeLe ∧
      states.Perm (tree.inOrder.map Moment.state) ∧
      states.length = 1 + (Outline.ofNode chart templates root).nodes.length ∧
      (states.Pairwise fun a b => a.time.totalLe b.time = true) ∧
      ∀ time, states.filter (·.time = time) =
        (tree.inOrder.map Moment.state).filter (·.time = time) := by
  have ordered := ordered_of_build built
  obtain ⟨tree, makes, walked, rfl⟩ := exists_makes_of_build built
  have nodes := makes.nodes_eq (whole_of_inOrder walked)
  refine ⟨tree, makes, makes.unfolds, nodes, rfl, List.mergeSort_perm .., ?_, ordered,
    State.filter_mergeSort _⟩
  have count := congrArg List.length nodes
  rw [List.length_map, List.length_cons] at count
  rw [List.length_mergeSort, List.length_map, count, Nat.add_comm]

/-! Texts at tied times: what a template nests in the first declaration stays between that one and
the first of two that an array of times fans out to. -/

def tiedTemplates : Templates where
  fragments := [("nest", [("states", .arr [.obj [("text", .str "inner"), ("time", .int 5)]])])]

def tiedRoot : Node :=
  [("states", .arr
      [.obj [("template", .str "nest"), ("time", .int 5)],
       .obj [("text", .str "twice"), ("time", .arr [.int 5, .int 2])],
       .obj [("text", .str "last")]]),
   ("text", .str "first")]

theorem build_sorts_tied :
    ∃ states, build .text Chart.empty tiedTemplates none tiedRoot = .ok (states, none) ∧
      states.length = 1 + 5 ∧
      ((states.filter (·.time = .ofInt 5)).map fun state =>
          Keyed.get? state.attributes.entries "text") =
        [some (.text "first"), some (.text "inner"), some (.text "twice")] := by
  have computed :
      (inOrder .text Chart.empty tiedTemplates none tiedRoot).toOption.map
          (fun made => ((made.1.filter (·.time = .ofInt 5)).map fun state =>
            Keyed.get? state.attributes.entries "text", made.2)) =
        some ([some (.text "first"), some (.text "inner"), some (.text "twice")], none) := by
    decide +kernel
  have count : (Outline.ofNode Chart.empty tiedTemplates tiedRoot).nodes.length = 5 := by
    decide +kernel
  obtain ⟨⟨ordered, bound⟩, given, texts⟩ := Option.map_eq_some_iff.1 computed
  obtain ⟨texts, rfl⟩ := Prod.mk.inj texts
  have walked := Result.eq_ok_of_toOption given
  have built : build .text Chart.empty tiedTemplates none tiedRoot =
      .ok (ordered.mergeSort State.timeLe, none) := by
    rw [build, walked]
    rfl
  obtain ⟨_, _, _, _, _, _, length, _⟩ := build_sorts built
  refine ⟨_, built, by rw [length, count], ?_⟩
  rw [State.filter_mergeSort]
  exact texts

end Timeline
end Storyboard
