import Storyboard.Proofs.Alike

/-!
# Positions of nested declarations

A declaration that is nested in another one, at any depth, has a position: the numbers of the
elements on the way to it, one for each array `states`. It can be edited in place. A walk comes to
a position as often as the declarations on the way fan out, so what one position becomes is a list
of moments, and what is nested there are the moments below them. A walk along siblings is one along
some of them and then one along the others, which starts where the first one ends.
-/
namespace Storyboard

open Result (Matches)

variable {category : Category} {chart : Chart} {templates : Templates}
  {rootTime : Option Binary64}

/-! ## Declarations at a position -/

namespace Node

variable {node target : Node} {position : Nat} {path : List Nat} {edit : Node → Node}

/-- The declaration at a position below another one. -/
def nestedAt : List Nat → Node → Option Node
  | [], node => some node
  | position :: path, node =>
    match Keyed.get? node "states" with
    | some (.arr items) =>
      match items[position]? with
      | some (.obj child) => nestedAt path child
      | _ => none
    | _ => none

/-- A declaration with the one at a position below it edited. -/
def editAt (edit : Node → Node) : List Nat → Node → Node
  | [], node => edit node
  | position :: path, node =>
    match Keyed.get? node "states" with
    | some (.arr items) =>
      match items[position]? with
      | some (.obj child) =>
        Keyed.insert "states" (.arr (items.set position (.obj (editAt edit path child)))) node
      | _ => node
    | _ => node

theorem nestedAt_cons_iff : node.nestedAt (position :: path) = some target ↔
    ∃ front child back, front.length = position ∧
      Keyed.get? node "states" = some (.arr (front ++ .obj child :: back)) ∧
      nestedAt path child = some target := by
  constructor
  · intro found
    rw [nestedAt] at found
    split at found
    · next items given =>
      split at found
      · next child listed =>
        obtain ⟨inside, same⟩ := List.getElem?_eq_some_iff.1 listed
        refine ⟨items.take position, child, items.drop (position + 1), ?_, ?_, found⟩
        · rw [List.length_take, Nat.min_eq_left (Nat.le_of_lt inside)]
        · rw [given, ← same, List.getElem_cons_drop inside, List.take_append_drop]
      · cases found
    · cases found
  · rintro ⟨front, child, back, rfl, given, found⟩
    have listed : (front ++ Json.obj child :: back)[front.length]? = some (.obj child) := by
      rw [List.getElem?_append_right (Nat.le_refl _), Nat.sub_self]
      rfl
    simp only [nestedAt, given, listed]
    exact found

theorem editAt_cons {front back : List Json} {child : Node}
    (given : Keyed.get? node "states" = some (.arr (front ++ .obj child :: back))) :
    node.editAt edit (front.length :: path) =
      Keyed.insert "states" (.arr (front ++ .obj (child.editAt edit path) :: back)) node := by
  have listed : (front ++ Json.obj child :: back)[front.length]? = some (.obj child) := by
    rw [List.getElem?_append_right (Nat.le_refl _), Nat.sub_self]
    rfl
  simp only [editAt, given, listed]
  rw [List.set_append_right _ _ (Nat.le_refl _), Nat.sub_self, List.set_cons_zero]

/-- What stands at a position after an edit is the edited declaration. -/
theorem nestedAt_editAt (found : node.nestedAt path = some target) :
    (node.editAt edit path).nestedAt path = some (edit target) := by
  induction path generalizing node with
  | nil =>
    cases found
    rfl
  | cons position path ih =>
    obtain ⟨front, child, back, rfl, given, below⟩ := nestedAt_cons_iff.1 found
    rw [editAt_cons given, nestedAt_cons_iff]
    refine ⟨front, child.editAt edit path, back, rfl, ?_, ih below⟩
    rw [Keyed.get?_insert, if_pos rfl]

end Node

/-! ## Moments at a position -/

/-- How many declarations an element of `states` stands for. -/
def Outline.width (chart : Chart) (item : Json) : Nat :=
  match ofItem chart item with
  | .ok variants => variants.length
  | .error _ => 0

namespace Moment

/-- The moments that one element of `states` became, among those that stand beside each other. -/
def share (chart : Chart) : List Json → Nat → List (Moment category) → List (Moment category)
  | [], _, _ => []
  | item :: _, 0, moments => moments.take (Outline.width chart item)
  | item :: rest, position + 1, moments =>
    share chart rest position (moments.drop (Outline.width chart item))

/-- The moments below those that the declaration at a position became, at any depth. -/
def belowAt (chart : Chart) : List Nat → Moment category → List (Moment category)
  | [], moment => allInOrder moment.nested
  | position :: path, moment =>
    match Keyed.get? moment.node "states" with
    | some (.arr items) => (share chart items position moment.nested).flatMap (belowAt chart path)
    | _ => []

theorem allInOrder_append (front back : List (Moment category)) :
    allInOrder (front ++ back) = allInOrder front ++ allInOrder back := by
  induction front with
  | nil => rw [allInOrder, List.nil_append, List.nil_append]
  | cons moment rest ih => rw [List.cons_append, allInOrder, allInOrder, ih, List.append_assoc]

/-- The share of an element begins where those of the elements in front of it end. -/
theorem share_append {front back : List Json} {item : Json} {ahead own : List Node}
    {first second third : List (Moment category)}
    (unfolded : (front.mapM (Outline.ofItem chart)).map List.flatten = .ok ahead)
    (fanned : Outline.ofItem chart item = .ok own) (before : first.length = ahead.length)
    (width : second.length = own.length) :
    share chart (front ++ item :: back) front.length (first ++ (second ++ third)) = second := by
  induction front generalizing ahead first with
  | nil =>
    cases unfolded
    obtain rfl := List.length_eq_zero_iff.1 before
    simp only [List.nil_append, List.length_nil, share, Outline.width, fanned, ← width,
      List.take_left]
  | cons other rest ih =>
    obtain ⟨variants, others, single, more, rfl⟩ := flatten_mapM_cons_iff.1 unfolded
    rw [List.length_append] at before
    -- the moments of the first element are dropped, and the others are still in front
    have drops : (first ++ (second ++ third)).drop variants.length =
        first.drop variants.length ++ (second ++ third) :=
      List.drop_append_of_le_length (by omega)
    rw [List.cons_append, List.length_cons, share, Outline.width, single]
    simp only [drops]
    apply ih more
    rw [List.length_drop]
    omega

theorem share_sublist (items : List Json) (position : Nat) (moments : List (Moment category)) :
    (share chart items position moments).Sublist moments := by
  induction items generalizing position moments with
  | nil => exact List.nil_sublist _
  | cons item rest ih =>
    cases position with
    | zero => exact List.take_sublist ..
    | succ position => exact (ih position _).trans (List.drop_sublist ..)

theorem mem_inOrder_of_mem_belowAt {path : List Nat} {lower moment : Moment category}
    (member : lower ∈ moment.belowAt chart path) : lower ∈ moment.inOrder := by
  induction path generalizing moment with
  | nil =>
    rw [inOrder_eq]
    exact List.mem_cons_of_mem _ member
  | cons position path ih =>
    rw [belowAt] at member
    split at member
    · obtain ⟨child, shared, inside⟩ := List.mem_flatMap.1 member
      rw [inOrder_eq]
      exact List.mem_cons_of_mem _ (mem_allInOrder ((share_sublist ..).subset shared) (ih inside))
    · cases member

end Moment

/-! ## Walks in parts -/

namespace Cursor

/-- Where a walk stands when it has passed some moments beside each other, and what is below
them. -/
def behind (cursor : Cursor category) (moments : List (Moment category)) (binding : Binding) :
    Cursor category where
  base := moments.foldl (fun base moment => moment.token.getD base) cursor.base
  last := moments.foldl (fun _ moment => moment.state) cursor.last
  binding

/-- Only the times and the states of the moments that are passed count. -/
theorem behind_congr {moments others : List (Moment category)}
    (tokens : moments.map Moment.token = others.map Moment.token)
    (states : moments.map Moment.state = others.map Moment.state) (cursor : Cursor category)
    (binding : Binding) : cursor.behind moments binding = cursor.behind others binding := by
  have base (list : List (Moment category)) :
      list.foldl (fun base moment => moment.token.getD base) cursor.base =
        (list.map Moment.token).foldl (fun base token => token.getD base) cursor.base := by
    rw [List.foldl_map]
  have last (list : List (Moment category)) :
      list.foldl (fun _ moment => moment.state) cursor.last =
        (list.map Moment.state).foldl (fun _ state => state) cursor.last := by
    rw [List.foldl_map]
  simp only [behind, base, last, tokens, states]

end Cursor

namespace Walk

variable {cursor : Cursor category} {variants left right : List Node}
  {moments others : List (Moment category)} {between after : Binding}

theorem length_eq (walk : Walk chart templates rootTime cursor variants moments after) :
    moments.length = variants.length := by
  induction walk with
  | done => rfl
  | entry _ _ _ _ _ _ _ ih => rw [List.length_cons, List.length_cons, ih]

theorem split (walk : Walk chart templates rootTime cursor (left ++ right) moments after) :
    ∃ first second between, moments = first ++ second ∧
      Walk chart templates rootTime cursor left first between ∧
      Walk chart templates rootTime (cursor.behind first between) right second after := by
  induction left generalizing cursor moments with
  | nil => exact ⟨[], moments, cursor.binding, rfl, .done cursor, walk⟩
  | cons variant rest ih =>
    cases walk with
    | entry merged resolved followed unfolded inner outer =>
      obtain ⟨first, second, between, rfl, ahead, onward⟩ := ih outer
      exact ⟨_ :: first, second, between, rfl,
        .entry merged resolved followed unfolded inner ahead, onward⟩

theorem append (walk : Walk chart templates rootTime cursor left moments between)
    (onward : Walk chart templates rootTime (cursor.behind moments between) right others after) :
    Walk chart templates rootTime cursor (left ++ right) (moments ++ others) after := by
  induction walk with
  | done => exact onward
  | entry merged resolved followed unfolded inner _ _ ih =>
    exact .entry merged resolved followed unfolded inner (ih onward)

end Walk
end Storyboard
