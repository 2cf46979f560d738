import Storyboard.Proofs.ChartNotes
import Storyboard.Proofs.Inheritance
import Storyboard.Proofs.LoadedObjects
import Storyboard.Proofs.StateTimes
import Storyboard.Proofs.WrittenTimes

/-!
# Times that are no numbers

States are sorted by the total order of their times but read by numeric comparison. The two differ
only where a time is NaN, and offsets of time tokens may be written as `nan` and `inf`. This module
says which tokens come to NaN in a chart of finite note times, that no other state of the object can
be NaN without one, and so exactly which objects are in numeric order.

Main statement: `Board.ofJson_numeric_order`.
-/
namespace Storyboard

/-! ## Arithmetic -/

namespace Binary64

variable {x y : Binary64}

theorem isNaN_of_isFinite (finite : x.isFinite = true) : x.isNaN = false := by
  have below : x.magnitude.val < infinityMagnitude := of_decide_eq_true finite
  exact decide_eq_false (Nat.lt_asymm below)

theorem isInfinite_of_isFinite (finite : x.isFinite = true) : x.isInfinite = false := by
  have below : x.magnitude.val < infinityMagnitude := of_decide_eq_true finite
  exact beq_eq_false_iff_ne.2 (Nat.ne_of_lt below)

/-- A rounded number is at most infinite. -/
theorem isNaN_ofRatio (negative : Bool) (num den : Nat) :
    (ofRatio negative num den).isNaN = false :=
  decide_eq_false (Nat.not_lt.2 (Nat.min_le_left ..))

theorem isNaN_infinity (negative : Bool) : (infinity negative).isNaN = false :=
  decide_eq_false (Nat.lt_irrefl _)

theorem isNaN_zero (negative : Bool) : (zero negative).isNaN = false :=
  decide_eq_false (Nat.not_lt_zero _)

theorem isZero_of_isInfinite (infinite : x.isInfinite = true) : x.isZero = false := by
  have same : x.magnitude.val = infinityMagnitude := beq_iff_eq.1 infinite
  refine beq_eq_false_iff_ne.2 ?_
  rw [same]
  decide

/-- Of two numbers of which one is finite, the sum is NaN only if the other one is. -/
theorem isNaN_add (finite : x.isFinite = true ∨ y.isFinite = true) :
    (x + y).isNaN = (x.isNaN || y.isNaN) := by
  change (add x y).isNaN = _
  unfold add
  cases nanX : x.isNaN with
  | true => rw [if_pos rfl, nanX, Bool.true_or]
  | false =>
    rw [if_neg Bool.false_ne_true, Bool.false_or]
    split
    · rfl
    · next numberY =>
      have numberY := Bool.eq_false_iff.2 numberY
      rw [numberY]
      split
      · next infinite =>
        -- then the other one is finite, so there are no opposite infinities
        have other : y.isInfinite = false := by
          refine isInfinite_of_isFinite (finite.resolve_left fun finite => ?_)
          rw [isInfinite_of_isFinite finite] at infinite
          cases infinite
        rw [other, Bool.false_and, if_neg Bool.false_ne_true, nanX]
      · split
        · exact numberY
        · dsimp only
          split
          · exact isNaN_zero _
          · exact isNaN_ofRatio ..

theorem isNaN_sub (finite : x.isFinite = true) (other : y.isFinite = true) :
    (x - y).isNaN = false := by
  have flipped : y.neg.isFinite = true := other
  change (sub x y).isNaN = _
  rw [sub, isNaN_of_isFinite other, if_neg Bool.false_ne_true]
  change (x + y.neg).isNaN = _
  rw [isNaN_add (.inl finite), isNaN_of_isFinite finite, isNaN_of_isFinite flipped]
  rfl

/-- A product is NaN for NaN, and for zero times infinity. -/
theorem isNaN_mul_iff : (x * y).isNaN = true ↔ x.isNaN = true ∨ y.isNaN = true ∨
    (x.isZero = true ∧ y.isInfinite = true) ∨ (x.isInfinite = true ∧ y.isZero = true) := by
  change (mul x y).isNaN = true ↔ _
  unfold mul
  dsimp only
  split
  · next nanX => simp [nanX]
  · next numberX =>
    split
    · next nanY => simp [nanY]
    · next numberY =>
      rw [or_iff_right numberX, or_iff_right numberY]
      split
      · next infinite =>
        split
        · next zero =>
          -- no number is both, so one of them is infinite and the other one is zero
          refine iff_of_true (by decide) ?_
          have apartX := @isZero_of_isInfinite x
          have apartY := @isZero_of_isInfinite y
          simp only [Bool.or_eq_true] at infinite zero
          rcases infinite with infinite | infinite
          · exact .inr ⟨infinite, zero.resolve_left (by simp [apartX infinite])⟩
          · exact .inl ⟨zero.resolve_right (by simp [apartY infinite]), infinite⟩
        · next solid =>
          simp only [Bool.or_eq_true, not_or] at solid
          exact iff_of_false (by rw [isNaN_infinity]; decide) (by simp [solid])
      · next finite =>
        simp only [Bool.or_eq_true, not_or] at finite
        exact iff_of_false (by rw [isNaN_ofRatio]; decide) (by simp [finite])

/-- Numbers that are in total order and are not NaN are in numeric order. -/
theorem le_of_totalLe (numberX : x.isNaN = false) (numberY : y.isNaN = false)
    (ordered : x.totalLe y = true) : x.le y = true := by
  have keys : x.key ≤ y.key := of_decide_eq_true ordered
  simp [le, numberX, numberY, keys]

theorem isNaN_of_le (ordered : x.le y = true) : x.isNaN = false ∧ y.isNaN = false := by
  simp only [le, Bool.and_eq_true, Bool.not_eq_true'] at ordered
  exact ordered.1

end Binary64

theorem isNaN_never : never.isNaN = false := by decide

theorem isNaN_shift (base : Binary64) (seconds : Finite64) :
    (shift base seconds).isNaN = base.isNaN := by
  have finite : seconds.val.isFinite = true := seconds.property
  unfold shift
  split
  · next hidden => rw [hidden]
  · rw [Binary64.isNaN_add (.inr finite), Binary64.isNaN_of_isFinite finite, Bool.or_false]

/-! ## Tokens -/

/-- A note whose times are finite. -/
structure Note.Finite (note : Note) : Prop where
  introTime : note.introTime.isFinite = true
  startTime : note.startTime.isFinite = true
  endTime : note.endTime.isFinite = true

/-- A token whose time at a note is undefined: its offset is NaN, or it is a part of the way through
the note and the length of the note and the part are zero and infinite, either way round. -/
inductive TimeToken.Undefined (note : Note) (token : TimeToken) : Prop
  | offset (nan : token.offset.isNaN = true) : Undefined note token
  | instant (between : token.anchor = .between)
      (zero : (note.endTime - note.startTime).isZero = true)
      (infinite : token.offset.isInfinite = true) : Undefined note token
  | endless (between : token.anchor = .between)
      (infinite : (note.endTime - note.startTime).isInfinite = true)
      (zero : token.offset.isZero = true) : Undefined note token

theorem TimeToken.undefined_iff {note : Note} {token : TimeToken} :
    token.Undefined note ↔ token.offset.isNaN = true ∨ token.anchor = .between ∧
      (((note.endTime - note.startTime).isZero = true ∧ token.offset.isInfinite = true) ∨
        ((note.endTime - note.startTime).isInfinite = true ∧ token.offset.isZero = true)) := by
  constructor
  · intro undefined
    cases undefined with
    | offset nan => exact .inl nan
    | instant between zero infinite => exact .inr ⟨between, .inl ⟨zero, infinite⟩⟩
    | endless between infinite zero => exact .inr ⟨between, .inr ⟨infinite, zero⟩⟩
  · rintro (nan | ⟨between, ⟨zero, infinite⟩ | ⟨infinite, zero⟩⟩)
    · exact .offset nan
    · exact .instant between zero infinite
    · exact .endless between infinite zero

/-- Where the times of the note are finite, a token comes to NaN only if it is undefined. -/
theorem TimeToken.isNaN_time_iff {note : Note} (finite : note.Finite) {token : TimeToken} :
    (token.anchor.time note token.offset).isNaN = true ↔ token.Undefined note := by
  -- adding to a finite time makes no NaN
  have added {base : Binary64} (finite : base.isFinite = true) (seconds : Binary64) :
      (base + seconds).isNaN = seconds.isNaN := by
    rw [Binary64.isNaN_add (.inl finite), Binary64.isNaN_of_isFinite finite, Bool.false_or]
  rw [undefined_iff]
  cases anchored : token.anchor with
  | intro => simp [Anchor.time, added finite.introTime]
  | start => simp [Anchor.time, added finite.startTime]
  | finish => simp [Anchor.time, added finite.endTime]
  | between =>
    rw [Anchor.time, added finite.startTime, Binary64.isNaN_mul_iff,
      Binary64.isNaN_sub finite.endTime finite.startTime]
    simp

/-- What a moment has if the token of its time is undefined at the note that it refers to. -/
def Moment.IsUndefined {category : Category} (chart : Chart) (moment : Moment category) : Prop :=
  ∃ text token id note, Keyed.get? moment.node "time" = some (.str text) ∧
    TimeToken.SpeltBy token text.toList ∧ chart.note? id = some note ∧
    moment.token = some (token.anchor.time note token.offset) ∧ token.Undefined note

namespace WrittenTime

variable {chart : Chart} {binding : Binding} {own : Option NoteId} {value : Option Json}
  {time : Binary64}

/-- Only a text comes to a time that is not finite. -/
theorem exists_text_of_isNaN (done : resolve chart binding own value = .ok (some time))
    (nan : time.isNaN = true) : ∃ text, value = some (.str text) := by
  unfold resolve at done
  split at done
  · next text => exact ⟨text, rfl⟩
  · obtain ⟨x, _, same⟩ := Option.map_eq_some_iff.1 (Except.ok.inj done)
    rw [← same, Finite64.toBinary, Binary64.isNaN_of_isFinite x.property] at nan
    cases nan
  · cases done

theorem exists_undefined_of_isNaN (finite : ∀ note ∈ chart.notes, note.Finite)
    (done : resolve chart binding own value = .ok (some time)) (nan : time.isNaN = true) :
    ∃ text token id note, value = some (.str text) ∧ TimeToken.SpeltBy token text.toList ∧
      chart.note? id = some note ∧ time = token.anchor.time note token.offset ∧
      token.Undefined note := by
  obtain ⟨text, rfl⟩ := exists_text_of_isNaN done nan
  have inDocument : ∀ given, some (Json.str text) = some given → given.InDocument := by
    rintro _ ⟨⟩
    nofun
  have resolves := @resolves_resolve chart own binding _ inDocument
  rw [done] at resolves
  cases resolves with
  | @known _ token id note spelt _ found =>
    have among := (Chart.id_of_note? found).1
    exact ⟨text, token, id, note, rfl, spelt, found, rfl,
      (TimeToken.isNaN_time_iff (finite note among)).1 nan⟩

/-- Each of some tokens is resolved with something bound. -/
theorem forall₂_of_resolveAll {nodes : List Node} {times : List (Option Binary64)}
    {after : Binding} (done : resolveAll chart binding nodes = .ok (times, after)) :
    List.Forall₂ (fun node time => ∃ between,
      resolve chart between (ownNote node) (Keyed.get? node "time") = .ok time) nodes times := by
  induction nodes generalizing binding times with
  | nil =>
    cases done
    exact .nil
  | cons node rest ih =>
    obtain ⟨time, resolved, done⟩ := Result.bind_eq_ok_iff.1 done
    obtain ⟨⟨others, last⟩, later, same⟩ := Result.bind_eq_ok_iff.1 done
    cases same
    exact .cons ⟨binding, resolved⟩ (ih later)

end WrittenTime

/-! ## Times of a tree -/

variable {category : Category} {chart : Chart} {templates : Templates}

namespace Moment

variable {moment parent tree : Moment category} {rootTime : Option Binary64}

/-- A moment whose token came to no NaN. -/
def HasNumber (moment : Moment category) : Prop :=
  ∀ time, moment.token = some time → time.isNaN = false

theorem isNaN_getD {token : Option Binary64}
    (number : ∀ time, token = some time → time.isNaN = false) :
    (token.getD never).isNaN = false := by
  cases token with
  | none => exact isNaN_never
  | some time => exact number time rfl

theorem isNaN_baseOf {earlier : List (Moment category)}
    (siblings : ∀ moment ∈ earlier, moment.HasNumber) (above : parent.HasNumber)
    (root : ∀ time, rootTime = some time → time.isNaN = false) :
    (baseOf rootTime parent earlier).isNaN = false := by
  refine isNaN_getD fun time given => ?_
  rcases Option.or_eq_some_iff.1 given with given | ⟨_, given⟩
  · rcases Option.or_eq_some_iff.1 given with given | ⟨_, given⟩
    · obtain ⟨moment, member, token⟩ := List.mem_filterMap.1 (List.mem_of_getLast? given)
      exact siblings moment member time token
    · exact above time given
  · exact root time given

/-- A state is NaN only after a token is. -/
theorem Timed.isNaN_time (timed : tree.Timed tree.token)
    (start : tree.state.time = tree.token.getD never)
    (numbers : ∀ moment : Moment category, moment.Within tree → moment.HasNumber)
    (inside : moment.Within tree) : moment.state.time.isNaN = false := by
  obtain ⟨back, way⟩ := exists_wayBack inside
  let holds (moment : Moment category) (_ : List (Moment category)) : Prop :=
    moment.state.time.isNaN = false
  refine way.along holds ?_ ?_
  · change tree.state.time.isNaN = false
    rw [start]
    exact isNaN_getD (numbers tree (.refl tree))
  · -- a time is a token, the sum of one and a finite number, or taken from the time in front
    intro parent earlier moment later _ within place front
    have beside {sibling : Moment category} (member : sibling ∈ parent.nested) :
        sibling.HasNumber :=
      numbers sibling (within.of_nested member)
    change moment.state.time.isNaN = false
    rw [timed parent within earlier moment later place, timeFrom]
    cases token : moment.token with
    | some time => exact beside (place ▸ by simp) time token
    | none =>
      cases State.numberIn moment.node "relative_time" with
      | some seconds =>
        refine (isNaN_shift _ seconds).trans (isNaN_baseOf ?_ (numbers parent within)
          (numbers tree (.refl tree)))
        exact fun sibling member => beside (place ▸ List.mem_append_left _ member)
      | none =>
        cases State.numberIn moment.node "add_time" with
        | some seconds => exact (isNaN_shift _ seconds).trans front
        | none =>
          dsimp only
          split
          · exact isNaN_never
          · exact front

/-- A token is the time of its moment. -/
theorem Timed.time_of_token (timed : tree.Timed rootTime)
    (start : tree.state.time = tree.token.getD never) (inside : moment.Within tree)
    {time : Binary64} (token : moment.token = some time) : moment.state.time = time := by
  obtain ⟨back, way⟩ := exists_wayBack inside
  cases way with
  | root =>
    rw [start, token]
    rfl
  | nested above place =>
    rw [timed _ above.within _ _ _ place, timeFrom, token]

end Moment

namespace Timeline

variable {binding after : Binding} {root : Node} {tree : Moment category}

/-- In a chart of finite note times, a token that came to NaN is an undefined one. -/
theorem Makes.isUndefined_of_isNaN (made : Makes chart templates binding root tree after)
    (finite : ∀ note ∈ chart.notes, note.Finite) {moment : Moment category}
    (inside : moment.Within tree) {time : Binary64} (token : moment.token = some time)
    (nan : time.isNaN = true) : moment.IsUndefined chart := by
  have resolved := WrittenTime.forall₂_of_resolveAll made.resolveAll
  rw [List.forall₂_map_left_iff, List.forall₂_map_right_iff, List.forall₂_same] at resolved
  obtain ⟨between, done⟩ := resolved moment (Moment.mem_inOrder_iff.2 inside)
  rw [token] at done
  obtain ⟨text, other, id, note, given, spelt, found, rfl, undefined⟩ :=
    WrittenTime.exists_undefined_of_isNaN finite done nan
  exact ⟨text, other, id, note, given, spelt, found, token, undefined⟩

/-- Some state of a tree is NaN exactly if some token of it is undefined. -/
theorem Makes.exists_isNaN_iff (made : Makes chart templates binding root tree after)
    (finite : ∀ note ∈ chart.notes, note.Finite) :
    (∃ moment : Moment category, moment.Within tree ∧ moment.state.time.isNaN = true) ↔
      ∃ moment : Moment category, moment.Within tree ∧ moment.IsUndefined chart := by
  constructor
  · rintro ⟨moment, inside, nan⟩
    by_contra none
    have numbers (other : Moment category) (within : other.Within tree) : other.HasNumber := by
      intro time token
      refine Bool.eq_false_iff.2 fun nan => none ⟨other, within, ?_⟩
      exact made.isUndefined_of_isNaN finite within token nan
    rw [made.timed.isNaN_time made.time_eq numbers inside] at nan
    cases nan
  · rintro ⟨moment, inside, text, token, id, note, given, spelt, found, came, undefined⟩
    refine ⟨moment, inside, ?_⟩
    rw [made.timed.time_of_token made.time_eq inside came]
    exact (TimeToken.isNaN_time_iff (finite note (Chart.id_of_note? found).1)).2 undefined

end Timeline

/-! ## Numeric order -/

namespace State

/-- States in the order of their times, adjacent ones compared as numbers. -/
def NumericallyOrdered (states : List (State category)) : Prop :=
  ∀ i (inside : i + 1 < states.length), states[i].time.le states[i + 1].time = true

/-- States that are in total order are in numeric order if none of them is NaN, and only then if
there are at least two of them. -/
theorem numericallyOrdered_iff {states : List (State category)}
    (ordered : states.Pairwise fun a b => a.time.totalLe b.time = true) :
    NumericallyOrdered states ↔
      states.length ≤ 1 ∨ ¬ ∃ state ∈ states, state.time.isNaN = true := by
  constructor
  · intro numeric
    refine or_iff_not_imp_left.2 fun several => ?_
    rintro ⟨state, member, nan⟩
    obtain ⟨i, inside, rfl⟩ := List.mem_iff_getElem.1 member
    -- each state has another one beside it
    have number : states[i].time.isNaN = false := by
      by_cases last : i + 1 < states.length
      · exact (Binary64.isNaN_of_le (numeric i last)).1
      · cases i with
        | zero => omega
        | succ i => exact (Binary64.isNaN_of_le (numeric i inside)).2
    rw [number] at nan
    cases nan
  · intro sound i inside
    have number (j : Nat) (within : j < states.length) : states[j].time.isNaN = false := by
      refine Bool.eq_false_iff.2 fun nan => ?_
      exact sound.elim (by omega) fun none => none ⟨_, List.getElem_mem within, nan⟩
    exact Binary64.le_of_totalLe (number i _) (number _ inside)
      (List.pairwise_iff_getElem.1 ordered i (i + 1) _ inside (Nat.lt_succ_self i))

end State

namespace Board

open Declarations

variable {root : Node}

/-- **Numeric order.** Every object of a load has the states of the tree that one of the
declarations of its category unfolds to. In a chart whose note times are finite, some state of an
object is NaN exactly if the tree has a token that is undefined at its note, for its offset or, on
the way through a note, for zero times infinity. The states of an object are in numeric order
exactly if there is only one of them or no token of the tree is undefined. -/
theorem ofJson_numeric_order {strict : Bool} {result : Board} (raw : isCompiled root = false)
    (finite : ∀ note ∈ chart.notes, note.Finite)
    (loaded : ofJson chart strict (.obj root) = .ok result) (category : Category) :
    ∀ object ∈ (result.tables.get category).objects,
      ∃ index node merged after, ∃ tree : Moment category,
        ⟨index, .ok node⟩ ∈ variantsIn chart root category ∧
        result.templates.complete (Prepared.withDefaultTime category node) = .ok merged ∧
        Timeline.Makes chart result.templates none merged tree after ∧
        object.states = (tree.inOrder.map Moment.state).mergeSort State.timeLe ∧
        ((∃ state ∈ object.states, state.time.isNaN = true) ↔
          ∃ moment : Moment category, moment.Within tree ∧ moment.IsUndefined chart) ∧
        ((∀ i (inside : i + 1 < object.states.length),
            object.states[i].time.le object.states[i + 1].time = true) ↔
          object.states.length ≤ 1 ∨
            ¬ ∃ moment : Moment category, moment.Within tree ∧ moment.IsUndefined chart) := by
  intro object member
  have found := Table.get?_eq_some_iff.2 ⟨member, rfl⟩
  rw [(templates_of_ofJson raw loaded).2, Declarations.get?_tables_board] at found
  obtain ⟨index, node, prepared, number, among, ready, done⟩ :=
    exists_prepared_of_mem_objects (List.mem_of_find?_eq_some found)
  obtain ⟨merged, completed, _, built⟩ := Prepared.exists_merged_of_ofNode ready
  obtain ⟨_, _, _, same⟩ := Prepared.finish_eq_ok done
  obtain ⟨tree, made, _, sorted⟩ := Timeline.exists_makes_of_build built
  -- the sort moves states around but makes none
  have nan : (∃ state ∈ object.states, state.time.isNaN = true) ↔
      ∃ moment : Moment category, moment.Within tree ∧ moment.IsUndefined chart := by
    rw [← made.exists_isNaN_iff finite, same, sorted]
    simp only [List.mem_mergeSort, List.mem_map, Moment.mem_inOrder_iff, exists_exists_and_eq_and]
  refine ⟨index, node, merged, _, tree, among, completed, made, same.trans sorted, nan, ?_⟩
  rw [← nan]
  exact State.numericallyOrdered_iff (same ▸ Timeline.ordered_of_build built)

/-! A text at an offset that is no number, with a state behind it that has a time. -/

def offsetNode : Node :=
  [("id", .str "a"), ("states", .arr [.obj [("time", .int 1)]]), ("time", .str "start:1:nan")]

def offsetRoot : Node := [("texts", .arr [.obj offsetNode])]

/-- What the text unfolds to. -/
theorem isUndefined_offset {tree : Moment .text} {after : Binding}
    (made : Timeline.Makes ringChart Templates.empty none offsetNode tree after) :
    tree.IsUndefined ringChart ∧ 1 < tree.inOrder.length := by
  have spelt : TimeToken.SpeltBy ⟨.start, .id 1, .nan false⟩ "start:1:nan".toList :=
    TimeToken.ofText?_eq_some_iff.1 (by decide +kernel)
  have came : WrittenTime.resolve ringChart none (ownNote offsetNode)
      (Keyed.get? offsetNode "time") = .ok (some (.ofInt 2 + .nan false)) :=
    Result.eq_ok_of_toOption (by decide +kernel)
  constructor
  · refine ⟨"start:1:nan", _, 1, _, ?_, spelt, rfl, ?_, .offset (by decide)⟩
    · rw [made.node]
      rfl
    · exact Except.ok.inj (made.resolved.symm.trans came)
  · obtain ⟨variants, unfolded, merged⟩ := made.unfolds tree (.refl tree)
    rw [made.node] at unfolded
    have children : Outline.children ringChart offsetNode = .ok [[("time", .int 1)]] :=
      Result.eq_ok_of_toOption (by decide +kernel)
    cases children.symm.trans unfolded
    cases nested : tree.nested with
    | nil =>
      rw [nested] at merged
      cases merged
    | cons moment rest =>
      rw [Moment.inOrder_eq, nested, Moment.allInOrder, Moment.inOrder_eq]
      simp

theorem ofJson_numeric_order_offset :
    isCompiled offsetRoot = false ∧ (∀ note ∈ ringChart.notes, note.Finite) ∧
    ∃ board, ofJson ringChart false (.obj offsetRoot) = .ok board ∧
      ∃ object ∈ (board.tables.get .text).objects,
        (∃ state ∈ object.states, state.time.isNaN = true) ∧
        ¬ ∀ i (inside : i + 1 < object.states.length),
          object.states[i].time.le object.states[i + 1].time = true := by
  have raw : isCompiled offsetRoot = false := by decide
  have finite : ∀ note ∈ ringChart.notes, note.Finite := by
    simp only [ringChart, List.forall_mem_cons, List.not_mem_nil, false_implies, implies_true]
    exact ⟨⟨by decide +kernel, by decide +kernel, by decide +kernel⟩,
      ⟨by decide +kernel, by decide +kernel, by decide +kernel⟩, trivial⟩
  have computed : (ofJson ringChart false (.obj offsetRoot)).toOption.map
      (fun board => (board.tables.get .text).objects.map StageObject.id) = some ["a"] := by
    decide +kernel
  obtain ⟨board, given, ids⟩ := Option.map_eq_some_iff.1 computed
  have loaded := Result.eq_ok_of_toOption given
  obtain ⟨object, rest, objects, _⟩ := List.map_eq_cons_iff.1 ids
  have member : object ∈ (board.tables.get .text).objects := objects ▸ List.mem_cons_self ..
  obtain ⟨index, node, merged, after, tree, among, completed, made, sorted, nan, numeric⟩ :=
    ofJson_numeric_order raw finite loaded .text object member
  have plain : board.templates = Templates.empty :=
    (Except.ok.inj (templates_of_ofJson raw loaded).1).symm
  have only : variantsIn ringChart offsetRoot .text = [⟨0, .ok offsetNode⟩] := rfl
  rw [only] at among
  cases List.mem_singleton.1 among
  rw [plain] at completed made
  cases completed
  obtain ⟨undefined, several⟩ := isUndefined_offset made
  have reached : ∃ moment : Moment .text, moment.Within tree ∧ moment.IsUndefined ringChart :=
    ⟨tree, .refl tree, undefined⟩
  refine ⟨raw, finite, board, loaded, object, member, nan.2 reached, ?_⟩
  rw [numeric, sorted, List.length_mergeSort, List.length_map]
  exact not_or.2 ⟨Nat.not_le.2 several, not_not.2 reached⟩

end Board
end Storyboard
