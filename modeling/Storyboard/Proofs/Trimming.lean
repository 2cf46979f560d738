import Storyboard.Proofs.Positions
import Storyboard.Proofs.StateOrder

/-!
# What nested declarations leave as it is

A walk hands three things on from a declaration to its next sibling: the time that relative times
count from, the state in front, and what is bound. What is nested in the declaration has no part in
the first two, and changes the third only where a declaration carries a note and refers to the
placeholder. So nested declarations that never do so can be taken out, and all other states stay as
they are, in the same order.

Main statement: `Timeline.build_trimmed`.
-/
namespace Storyboard

open Result (Matches)

variable {category : Category} {chart : Chart} {templates : Templates}
  {rootTime : Option Binary64}

/-! ## Declarations that bind nothing -/

theorem WrittenTime.resolveAll_of_quiet {nodes : List Node} (quiet : ∀ node ∈ nodes, ¬ node.Rebinds)
    {binding after : Binding} {times : List (Option Binary64)}
    (resolved : resolveAll chart binding nodes = .ok (times, after)) : after = binding := by
  induction nodes generalizing binding times with
  | nil =>
    cases resolved
    rfl
  | cons node rest ih =>
    obtain ⟨time, _, tail⟩ := Result.bind_eq_ok_iff.1 resolved
    obtain ⟨⟨later, bound⟩, given, same⟩ := Result.bind_eq_ok_iff.1 tail
    cases same
    rw [bindingAfter_of_not_rebinds (quiet node (List.mem_cons_self ..))] at given
    exact ih (fun other member => quiet other (List.mem_cons_of_mem _ member)) given

theorem Walk.binding_of_quiet {cursor : Cursor category} {variants : List Node}
    {moments : List (Moment category)} {after : Binding}
    (walk : Walk chart templates rootTime cursor variants moments after)
    (quiet : ∀ moment ∈ Moment.allInOrder moments, ¬ moment.node.Rebinds) :
    after = cursor.binding := by
  apply WrittenTime.resolveAll_of_quiet _ walk.resolveAll
  intro node member
  obtain ⟨moment, inside, rfl⟩ := List.mem_map.1 member
  exact quiet moment inside

/-! ## Declarations with a bare one at a position -/

namespace Node

variable {node other target : Node} {path : List Nat}

/-- A declaration in which nothing is nested. -/
def bare (node : Node) : Node := Keyed.insert "states" (.arr []) node

/-- The values of `states` in a declaration before and after the one at a position is made bare. -/
inductive Bares : List Nat → Option Json → Option Json → Prop
  | here (value : Option Json) : Bares [] value (some (.arr []))
  | deeper {front back : List Json} {child : Node} {path : List Nat}
      (inside : Bares path (Keyed.get? child "states")
        (Keyed.get? (child.editAt bare path) "states")) :
      Bares (front.length :: path) (some (.arr (front ++ .obj child :: back)))
        (some (.arr (front ++ .obj (child.editAt bare path) :: back)))

theorem Bares.hides {upper lower : Option Json} (bares : Bares path upper lower)
    (below : Option Json) : Bares path (upper.or below) (lower.or below) := by
  cases bares with
  | here value => exact .here _
  | deeper inside => exact .deeper inside

/-- Making a declaration bare changes no other field, there or on the way to it. -/
theorem get?_editAt_bare (path : List Nat) (node : Node) {key : String}
    (notStates : key ≠ "states") :
    Keyed.get? (node.editAt bare path) key = Keyed.get? node key := by
  unfold editAt
  split
  · rw [bare, Keyed.get?_insert, if_neg notStates.symm]
  · split
    · split
      · rw [Keyed.get?_insert, if_neg notStates.symm]
      · rfl
    · rfl

theorem bares_editAt (found : node.nestedAt path = some target) :
    Bares path (Keyed.get? node "states") (Keyed.get? (node.editAt bare path) "states") := by
  induction path generalizing node with
  | nil =>
    rw [editAt, bare, Keyed.get?_insert, if_pos rfl]
    exact .here _
  | cons position path ih =>
    obtain ⟨front, child, back, rfl, given, below⟩ := nestedAt_cons_iff.1 found
    rw [editAt_cons given, Keyed.get?_insert, if_pos rfl, given]
    exact .deeper (ih below)

theorem differ_editAt (bares : Bares path (Keyed.get? node "states")
    (Keyed.get? (node.editAt bare path) "states")) :
    node.Differ (Bares path) (node.editAt bare path) :=
  ⟨fun _ notStates => (get?_editAt_bare path node notStates).symm, bares⟩

end Node

open Node (Bares)

/-! ## Trimmed moments -/

namespace Moment

/-- The states of moments that stand beside each other, and of those below them. -/
def allStates (moments : List (Moment category)) : List (State category) :=
  (allInOrder moments).map state

theorem allStates_append (front back : List (Moment category)) :
    allStates (front ++ back) = allStates front ++ allStates back := by
  rw [allStates, allInOrder_append, List.map_append, allStates, allStates]

theorem allStates_single (moment : Moment category) :
    allStates [moment] = moment.inOrder.map state := by
  rw [allStates, allInOrder, allInOrder, List.append_nil]

/-- Moments are trimmed if some of their states are gone, and the others are in the same order. -/
structure Trims (gone : List (State category)) (moments trimmed : List (Moment category)) :
    Prop where
  kept : (allStates trimmed).Sublist (allStates moments)
  parts : (allStates moments).Perm (allStates trimmed ++ gone)

namespace Trims

variable {gone other : List (State category)} {moments trimmed rest others : List (Moment category)}

theorem refl (moments : List (Moment category)) : Trims [] moments moments := by
  constructor
  · exact .refl _
  · rw [List.append_nil]

theorem all (moments : List (Moment category)) : Trims (allStates moments) moments [] :=
  ⟨List.nil_sublist _, .refl _⟩

theorem append (first : Trims gone moments trimmed) (second : Trims other rest others) :
    Trims (gone ++ other) (moments ++ rest) (trimmed ++ others) := by
  constructor
  · rw [allStates_append, allStates_append]
    exact first.kept.append second.kept
  · rw [allStates_append, allStates_append]
    refine (first.parts.append second.parts).trans ?_
    -- what is gone from the front moves behind what is kept of the back
    rw [List.append_assoc, List.append_assoc]
    refine List.Perm.append_left _ ?_
    rw [← List.append_assoc, ← List.append_assoc]
    exact List.Perm.append_right _ List.perm_append_comm

theorem entry {moment : Moment category} (below : Trims gone moment.nested trimmed) (twin : Node) :
    Trims gone [moment] [⟨twin, moment.token, moment.state, trimmed⟩] := by
  have single (moment : Moment category) :
      allStates [moment] = moment.state :: allStates moment.nested := by
    rw [allStates_single, inOrder_eq, List.map_cons]
    rfl
  constructor
  · rw [single, single]
    exact below.kept.cons_cons moment.state
  · rw [single, single, List.cons_append]
    exact below.parts.cons moment.state

end Trims
end Moment

open Moment (Trims)

/-! ## Walks past a bare declaration -/

namespace Walk

variable {cursor : Cursor category} {variants others : List Node}
  {moments : List (Moment category)} {between after : Binding} {path : List Nat}

/-- What is nested in a declaration can be trimmed at a position, if nothing below the position
rebinds the placeholder: a walk past the bare declaration starts and ends with the same bindings and
makes all moments but those below the position. -/
def TrimsAt (category : Category) (chart : Chart) (templates : Templates)
    (rootTime : Option Binary64) (path : List Nat) : Prop :=
  ∀ (moment : Moment category) (twin : Node) (cursor : Cursor category) (variants : List Node)
    (between : Binding), moment.node.Differ (Bares path) twin →
    Outline.children chart moment.node = .ok variants →
    Walk chart templates rootTime cursor variants moment.nested between →
    (∀ lower ∈ moment.belowAt chart path, ¬ lower.node.Rebinds) →
    ∃ others trimmed, Outline.children chart twin = .ok others ∧
      Walk chart templates rootTime cursor others trimmed between ∧
      Trims ((moment.belowAt chart path).map Moment.state) moment.nested trimmed

/-- A declaration takes the place of another one in a walk if the two differ in what is nested
only. -/
theorem entry_of_differ {nested : Option Json → Option Json → Prop}
    {node twin twinVariant : Node} {rest : List Node} {token : Option Binary64}
    {state : State category} {trimmed : List (Moment category)}
    (differ : node.Differ nested twin) (merged : templates.complete twinVariant = .ok twin)
    (resolved : WrittenTime.resolve chart cursor.binding (ownNote node) (Keyed.get? node "time") =
      .ok token)
    (followed : State.follow (some cursor.last) node = .ok state)
    (unfolded : Outline.children chart twin = .ok others)
    (inner : Walk chart templates rootTime
      (cursor.into rootTime node token (cursor.place token state)) others trimmed between)
    (outer : Walk chart templates rootTime
      (cursor.past token (cursor.place token state) between) rest moments after) :
    Walk chart templates rootTime cursor (twinVariant :: rest)
      (⟨twin, token, cursor.place token state, trimmed⟩ :: moments) after := by
  have note := differ.ownNote_eq
  have time := differ.fields "time" (by decide)
  refine .entry merged ?_ ?_ unfolded ?_ outer
  · rw [← note, ← time]
    exact resolved
  · rw [← differ.follow_eq]
    exact followed
  · rw [Cursor.into, ← note, ← time]
    exact inner

/-- Where all siblings can be trimmed at a position, so can a walk along them. Their own times and
states stay, so it goes on behind them as before. -/
theorem trims_siblings (deeper : TrimsAt category chart templates rootTime path)
    (walk : Walk chart templates rootTime cursor variants moments after)
    (differ : List.Forall₂ (Node.Differ (Bares path)) variants others)
    (quiet : ∀ lower ∈ moments.flatMap (Moment.belowAt chart path), ¬ lower.node.Rebinds) :
    ∃ trimmed, Walk chart templates rootTime cursor others trimmed after ∧
      Trims ((moments.flatMap (Moment.belowAt chart path)).map Moment.state) moments trimmed ∧
      trimmed.map Moment.token = moments.map Moment.token ∧
      trimmed.map Moment.state = moments.map Moment.state := by
  induction walk generalizing others with
  | done cursor =>
    cases differ
    exact ⟨[], .done cursor, .refl [], rfl, rfl⟩
  | @entry cursor variant node rest _ token state nested moments _ _ merged resolved followed
      unfolded inner _ _ beside =>
    obtain ⟨twinVariant, twinRest, first, further, rfl⟩ := List.forall₂_cons_left_iff.1 differ
    rw [List.flatMap_cons] at quiet
    have same : Matches (Node.Differ (Bares path)) (templates.complete variant)
        (templates.complete twinVariant) :=
      first.complete fun _ _ below nested => nested.hides below
    rw [merged] at same
    obtain ⟨twin, twinMerged, differs⟩ := same.exists_of_ok
    -- first what is below the sibling is trimmed, then what comes behind it
    obtain ⟨inside, trimmed, twinUnfolded, twinInner, below⟩ :=
      deeper ⟨node, token, cursor.place token state, nested⟩ twin _ _ _ differs unfolded inner
        fun lower member => quiet lower (List.mem_append_left _ member)
    obtain ⟨others, twinOuter, behind, tokens, states⟩ :=
      beside further fun lower member => quiet lower (List.mem_append_right _ member)
    refine ⟨⟨twin, token, cursor.place token state, trimmed⟩ :: others, ?_, ?_, ?_, ?_⟩
    · exact entry_of_differ differs twinMerged resolved followed twinUnfolded twinInner twinOuter
    · rw [List.flatMap_cons, List.map_append]
      exact (below.entry twin).append behind
    · rw [List.map_cons, List.map_cons, tokens]
    · rw [List.map_cons, List.map_cons, states]

theorem trimsAt (path : List Nat) : TrimsAt category chart templates rootTime path := by
  -- the induction goes down along the position, and at each level along the siblings there
  induction path with
  | nil =>
    intro moment twin cursor variants between differ unfolded walk quiet
    have empty : Keyed.get? twin "states" = some (.arr []) := by
      have nested := differ.nested
      generalize Keyed.get? twin "states" = value at nested
      cases nested
      rfl
    -- all of it is taken out, so the binding at the end has to be that at the start
    have unbound : between = cursor.binding := walk.binding_of_quiet quiet
    refine ⟨[], [], ?_, ?_, .all _⟩
    · simp only [Outline.children, empty]
      rfl
    · rw [unbound]
      exact .done cursor
  | cons position path ih =>
    intro moment twin cursor variants between differ unfolded walk quiet
    have nested := differ.nested
    generalize given : Keyed.get? moment.node "states" = upper,
      givenToo : Keyed.get? twin "states" = lower at nested
    cases nested with
    | @deeper front back child _ inside =>
      simp only [Outline.children, given] at unfolded
      obtain ⟨ahead, own, behind, first, second, third, rfl⟩ :=
        flatten_mapM_middle_iff.1 unfolded
      have fans : Matches (List.Forall₂ (Node.Differ (Bares path))) (fanOut chart child)
          (fanOut chart (child.editAt Node.bare path)) := (Node.differ_editAt inside).fanOut
      -- the bare declaration fans out as often as the one that it stands for
      rw [show fanOut chart child = .ok own from second] at fans
      obtain ⟨twinOwn, twinFans, differs⟩ := fans.exists_of_ok
      -- the walk passes what stands in front, then what stands at the position, then the rest
      obtain ⟨early, rest, reached, whole, before, walk⟩ := walk.split
      obtain ⟨here, late, left, rfl, along, after⟩ := walk.split
      have shared : Moment.share chart (front ++ .obj child :: back) front.length moment.nested =
          here := by
        rw [whole]
        exact Moment.share_append first second before.length_eq along.length_eq
      have lowest : moment.belowAt chart (front.length :: path) =
          here.flatMap (Moment.belowAt chart path) := by
        simp only [Moment.belowAt, given, shared]
      rw [lowest] at quiet ⊢
      obtain ⟨trimmed, twinAlong, trims, tokens, states⟩ := along.trims_siblings ih differs quiet
      refine ⟨ahead ++ (twinOwn ++ behind), early ++ (trimmed ++ late), ?_, ?_, ?_⟩
      · simp only [Outline.children, givenToo]
        exact flatten_mapM_middle_iff.2 ⟨ahead, twinOwn, behind, first, twinFans, third, rfl⟩
      · refine before.append (twinAlong.append ?_)
        -- what is trimmed has not moved the cursor, so the rest of the walk is the same
        rw [Cursor.behind_congr tokens states]
        exact after
      · have all := (Trims.refl early).append (trims.append (.refl late))
        rw [List.nil_append, List.append_nil] at all
        rw [whole]
        exact all

end Walk

namespace Timeline

variable {binding after : Binding} {root : Node} {tree : Moment category} {path : List Nat}

/-- A declaration that differs from another one in what is nested becomes the tree of the other one,
with the walk along what is nested in itself. -/
theorem Makes.replace {nested : Option Json → Option Json → Prop} {twin : Node}
    {others : List Node} {trimmed : List (Moment category)}
    (makes : Makes chart templates binding root tree after) (differ : root.Differ nested twin)
    (unfolded : Outline.children chart twin = .ok others)
    (walk : Walk chart templates tree.token (.ofRoot binding root tree.token tree.state) others
      trimmed after) :
    Makes chart templates binding twin ⟨twin, tree.token, tree.state, trimmed⟩ after := by
  have noteSame := differ.ownNote_eq
  have timeSame := differ.fields "time" (by decide)
  refine ⟨rfl, ?_, ?_, others, unfolded, ?_⟩
  · rw [← noteSame, ← timeSame]
    exact makes.resolved
  · rw [← differ.follow_eq]
    exact makes.followed
  · rw [Cursor.ofRoot, ← noteSame, ← timeSame]
    exact walk

/-- **What nested declarations leave as it is.** Let the states of a declaration be built, and take
any position below it such that no declaration nested there, at any depth, both carries a note and
refers to the placeholder in its time. Then the states can be built just as well if the declaration
at the position has nothing nested in it. They are states of the original result in the same order,
and those that are missing are the states of the declarations below that position, once for each
time that it is come to. What is bound in the end is the same. -/
theorem build_trimmed {states : List (State category)}
    (built : build category chart templates binding root = .ok (states, after)) :
    ∃ tree : Moment category,
      Makes chart templates binding root tree after ∧
      tree.Unfolds chart templates ∧
      tree.inOrder.map Moment.node = root :: (Outline.ofNode chart templates root).nodes ∧
      states = (tree.inOrder.map Moment.state).mergeSort State.timeLe ∧
      ∀ path target, root.nestedAt path = some target →
        (∀ lower ∈ tree.belowAt chart path, ¬ lower.node.Rebinds) →
        (root.editAt Node.bare path).nestedAt path = some target.bare ∧
        ∃ fewer,
          build category chart templates binding (root.editAt Node.bare path) =
            .ok (fewer, after) ∧
          fewer.Sublist states ∧
          states.Perm (fewer ++ (tree.belowAt chart path).map Moment.state) := by
  obtain ⟨tree, makes, walked, rfl⟩ := exists_makes_of_build built
  refine ⟨tree, makes, makes.unfolds, makes.nodes_eq (whole_of_inOrder walked), rfl, ?_⟩
  intro path target found quiet
  refine ⟨Node.nestedAt_editAt found, ?_⟩
  have differ : root.Differ (Bares path) (root.editAt Node.bare path) :=
    Node.differ_editAt (Node.bares_editAt found)
  obtain ⟨variants, unfolded, walk⟩ := makes.walked
  have node := makes.node
  subst node
  obtain ⟨others, trimmed, unfoldedBare, walkBare, trims⟩ :=
    Walk.trimsAt path tree _ _ variants after differ unfolded walk quiet
  -- the root keeps its own state, on top of what is trimmed below it
  have whole := trims.entry (tree.node.editAt Node.bare path)
  have replaced := inOrder_eq_ok_iff.2 ⟨_, makes.replace differ unfoldedBare walkBare, rfl⟩
  refine ⟨_, Result.bind_eq_ok_iff.2 ⟨_, replaced, rfl⟩, ?_, ?_⟩
  · apply State.sublist_mergeSort
    rw [← Moment.allStates_single, ← Moment.allStates_single tree]
    exact whole.kept
  · have parts := whole.parts
    rw [Moment.allStates_single, Moment.allStates_single] at parts
    -- both results are sorted, and sorting only moves states
    have sorted := List.mergeSort_perm (tree.inOrder.map Moment.state) State.timeLe
    exact (sorted.trans parts).trans ((List.mergeSort_perm _ _).symm.append_right _)

/-! A text that appears twice, each time with a line below it, and an echo below that. -/

def line : Node :=
  [("states", .arr [.obj [("add_time", .int 1), ("text", .str "echo")]]), ("text", .str "line")]

def verses : Node :=
  [("states", .arr
      [.obj [("states", .arr [.obj line]), ("text", .str "verse"), ("time", .arr [.int 5, .int 2])],
       .obj [("text", .str "last")]]),
   ("text", .str "first")]

theorem build_trimmed_verses :
    ∃ states fewer, build .text Chart.empty Templates.empty none verses = .ok (states, none) ∧
      (verses.editAt Node.bare [0, 0]).nestedAt [0, 0] = some line.bare ∧
      build .text Chart.empty Templates.empty none (verses.editAt Node.bare [0, 0]) =
        .ok (fewer, none) ∧
      fewer.Sublist states ∧ states.length = 8 ∧ fewer.length = 6 := by
  have whole : (inOrder .text Chart.empty Templates.empty none verses).toOption.map
      (fun made => (made.1.length, made.2)) = some (8, none) := by
    decide +kernel
  have trimmed : (inOrder .text Chart.empty Templates.empty none
      (verses.editAt Node.bare [0, 0])).toOption.map (fun made => made.1.length) = some 6 := by
    decide +kernel
  have silent : ∀ node ∈ (Outline.ofNode Chart.empty Templates.empty verses).nodes,
      ¬ node.Rebinds := by
    decide +kernel
  obtain ⟨⟨ordered, bound⟩, given, counts⟩ := Option.map_eq_some_iff.1 whole
  obtain ⟨⟨others, left⟩, givenToo, fewerCount⟩ := Option.map_eq_some_iff.1 trimmed
  obtain ⟨count, rfl⟩ := Prod.mk.inj counts
  have walked := Result.eq_ok_of_toOption given
  have built : build .text Chart.empty Templates.empty none verses =
      .ok (ordered.mergeSort State.timeLe, none) := by
    rw [build, walked]
    rfl
  obtain ⟨tree, _, _, nodes, _, positions⟩ := build_trimmed built
  have quiet : ∀ lower ∈ tree.belowAt Chart.empty [0, 0], ¬ lower.node.Rebinds := by
    intro lower member
    have inside := List.mem_map_of_mem (f := Moment.node) (Moment.mem_inOrder_of_mem_belowAt member)
    rw [nodes] at inside
    rcases List.mem_cons.1 inside with root | below
    · rw [root]
      decide
    · exact silent lower.node below
  obtain ⟨stands, fewer, rebuilt, kept, _⟩ := positions [0, 0] line rfl quiet
  refine ⟨_, fewer, built, stands, rebuilt, kept, ?_, ?_⟩
  · rw [List.length_mergeSort]
    exact count
  · rw [build, Result.eq_ok_of_toOption givenToo] at rebuilt
    cases rebuilt
    rw [List.length_mergeSort]
    exact fewerCount

end Timeline
end Storyboard
