import Storyboard.Board.Compiled
import Storyboard.Proofs.Collecting
import Storyboard.Proofs.Result

/-!
# Where the values of a loaded board come from

A record that was read has in each column what the column reads in the field of its name, or, if the
record is written as an array, in the item at its place; a column for which nothing is there has its
default. So the states of an object in a compiled document are those that are written, in their
order, their times are finite, and every object of a table is an outcome of the load.
-/
namespace Storyboard

open Json

namespace Json

/-- What a column has in a record in which a draft stands for it, or nothing. -/
def Column.Takes (column : Column) (found : Option Draft) (value : column.Value) : Prop :=
  match found with
  | some draft => column.read draft = .ok value
  | none => column.default? = some value

/-- What stands in the cell of a column after a draft for it was met, or none. -/
def Column.Fills (column : Column) (found : Option Draft) (cell : Option column.Value) : Prop :=
  match found with
  | some draft => ∃ value, column.read draft = .ok value ∧ cell = some value
  | none => cell = none

/-- Each cell is filled from the field of the name of its column. -/
def Cells.FilledFrom (fields : List (Option String × Draft)) :
    (columns : List Column) → Cells columns → Prop
  | [], () => True
  | column :: rest, (cell, cells) =>
    column.Fills (State.givenIn fields column.name) cell ∧ FilledFrom fields rest cells

/-- Each value is taken from the field of the name of its column. -/
def Record.TakenByName (fields : List (Option String × Draft)) :
    (columns : List Column) → Record columns → Prop
  | [], () => True
  | column :: rest, (value, values) =>
    column.Takes (State.givenIn fields column.name) value ∧ TakenByName fields rest values

/-- The values are taken from items, one after the other. -/
def Record.TakenInOrder : (columns : List Column) → List Draft → Record columns → Prop
  | [], _, () => True
  | column :: rest, items, (value, values) =>
    column.Takes items.head? value ∧ TakenInOrder rest items.tail values

/-- Each value is taken from the part of a draft that stands for its column. -/
def Record.TakenFrom (columns : List Column) : Draft → Record columns → Prop
  | .obj fields _, record => TakenByName fields columns record
  | .arr items _, record => TakenInOrder columns items record
  | _, _ => False

theorem givenIn_concat (fields : List (Option String × Draft)) (key name : String) (draft : Draft) :
    State.givenIn (fields ++ [(some key, draft)]) name =
      (State.givenIn fields name).or (if key = name then some draft else none) := by
  rw [State.givenIn, List.find?_append, List.find?_singleton, Option.map_or]
  by_cases same : key = name <;> simp [State.givenIn, same]

namespace Cells

variable {columns : List Column} {cells after : Cells columns}

theorem filledFrom_empty (columns : List Column) : FilledFrom [] columns (empty columns) := by
  induction columns with
  | nil => trivial
  | cons column rest ih => exact ⟨rfl, ih⟩

/-- A field that is no column leaves the cells as they are. -/
theorem FilledFrom.concat_other {fields : List (Option String × Draft)} {key : String}
    {draft : Draft} (filled : FilledFrom fields columns cells)
    (other : key ∉ columns.map Column.name) :
    FilledFrom (fields ++ [(some key, draft)]) columns cells := by
  induction columns with
  | nil => trivial
  | cons column rest ih =>
    obtain ⟨cell, cells⟩ := cells
    rw [List.map_cons, List.mem_cons, not_or] at other
    refine ⟨?_, ih filled.2 other.2⟩
    rw [givenIn_concat, if_neg other.1, Option.or_none]
    exact filled.1

/-- **Step**: the field that is read fills its cell, which was empty. -/
theorem filledFrom_put {fields : List (Option String × Draft)} {key : String} {draft : Draft}
    (distinct : (columns.map Column.name).Nodup) (filled : FilledFrom fields columns cells)
    (done : put key draft columns cells = .ok after) :
    FilledFrom (fields ++ [(some key, draft)]) columns after := by
  induction columns with
  | nil => trivial
  | cons column rest ih =>
    obtain ⟨cell, cells⟩ := cells
    obtain ⟨fresh, distinct⟩ := List.nodup_cons.1 distinct
    simp only [put] at done
    split at done
    · next same =>
      subst same
      cases cell with
      | some value => cases done
      | none =>
        obtain ⟨value, taken, rfl⟩ := Result.map_eq_ok_iff.1 done
        refine ⟨?_, filled.2.concat_other fresh⟩
        -- the cell was empty, so no earlier field had the name
        have first := filled.1
        rw [givenIn_concat, if_pos rfl]
        cases found : State.givenIn fields column.name with
        | none => exact ⟨value, taken, rfl⟩
        | some earlier =>
          rw [found] at first
          obtain ⟨_, _, same⟩ := first
          cases same
    · next differs =>
      obtain ⟨others, later, rfl⟩ := Result.map_eq_ok_iff.1 done
      refine ⟨?_, ih distinct filled.2 later⟩
      rw [givenIn_concat, if_neg (Ne.symm differs), Option.or_none]
      exact filled.1

/-- **Run**: the cells are filled from all fields that are read. -/
theorem filledFrom_putAll {front fields : List (Option String × Draft)}
    (distinct : (columns.map Column.name).Nodup) (filled : FilledFrom front columns cells)
    (done : putAll columns fields cells = .ok after) :
    FilledFrom (front ++ fields) columns after := by
  induction fields generalizing front cells with
  | nil =>
    cases done
    rw [List.append_nil]
    exact filled
  | cons field rest ih =>
    obtain ⟨key, draft⟩ := field
    cases key with
    | none => cases done
    | some key =>
      obtain ⟨next, first, later⟩ := Result.bind_eq_ok_iff.1 done
      rw [List.append_cons]
      exact ih (filledFrom_put distinct filled first) later

theorem takenByName_finish {fields : List (Option String × Draft)} {record : Record columns}
    (filled : FilledFrom fields columns cells) (done : finish columns cells = .ok record) :
    Record.TakenByName fields columns record := by
  induction columns with
  | nil => trivial
  | cons column rest ih =>
    obtain ⟨cell, cells⟩ := cells
    simp only [finish] at done
    split at done
    · cases done
    · next value chosen =>
      obtain ⟨values, later, rfl⟩ := Result.map_eq_ok_iff.1 done
      refine ⟨?_, ih filled.2 later⟩
      -- a filled cell keeps its value, an empty one takes the default
      have first := filled.1
      cases found : State.givenIn fields column.name with
      | none =>
        rw [found] at first
        cases first
        exact chosen
      | some draft =>
        rw [found] at first
        obtain ⟨other, taken, rfl⟩ := first
        cases chosen
        exact taken

end Cells

namespace Record

variable {columns : List Column} {record : Record columns}

theorem takenInOrder_of_ofItems {name : String} {size total index : Nat} {closed : Bool}
    {items : List Draft} (done : ofItems name size total closed columns index items = .ok record) :
    TakenInOrder columns items record := by
  induction columns generalizing index items with
  | nil => trivial
  | cons column rest ih =>
    cases items with
    | nil =>
      simp only [ofItems] at done
      split at done
      · cases done
      · split at done
        · cases done
        · next value default =>
          obtain ⟨values, later, rfl⟩ := Result.map_eq_ok_iff.1 done
          exact ⟨default, ih later⟩
    | cons item items =>
      obtain ⟨value, first, done⟩ := Result.bind_eq_ok_iff.1 done
      obtain ⟨values, later, done⟩ := Result.bind_eq_ok_iff.1 done
      cases done
      exact ⟨first, ih later⟩

/-- Each value of a record was read by its column where the record is written, or is the default of
the column. -/
theorem takenFrom_of_read {name : String} {draft : Draft}
    (distinct : (columns.map Column.name).Nodup) (done : read name columns draft = .ok record) :
    TakenFrom columns draft record := by
  cases draft with
  | obj fields closed =>
    obtain ⟨cells, filled, done⟩ := Result.bind_eq_ok_iff.1 done
    cases closed with
    | false => cases done
    | true =>
      have whole := Cells.filledFrom_putAll distinct (Cells.filledFrom_empty columns) filled
      exact Cells.takenByName_finish whole done
  | arr items closed => exact takenInOrder_of_ofItems done
  | scalar _ | unreadable | broken => cases done

end Record

/-- A list is read item by item. -/
theorem Reader.list_eq_ok {α : Type} {reader : Reader α} {draft : Draft} {values : List α}
    (done : Reader.list reader draft = .ok values) :
    ∃ items, draft = .arr items true ∧ items.mapM reader = .ok values := by
  cases draft with
  | arr items closed =>
    obtain ⟨found, each, done⟩ := Result.bind_eq_ok_iff.1 done
    cases closed with
    | false => cases done
    | true =>
      cases done
      exact ⟨items, rfl, each⟩
  | scalar _ | obj _ _ | unreadable | broken => cases done

/-- A list is read from an array of as many values. -/
theorem Reader.list_ofJson_eq_ok {α : Type} {reader : Reader α} {value : Json} {results : List α}
    (done : Reader.list reader (.ofJson value) = .ok results) :
    ∃ written, value = .arr written ∧
      List.Forall₂ (fun item result => reader (.ofJson item) = .ok result) written results := by
  obtain ⟨items, form, each⟩ := list_eq_ok done
  cases value with
  | arr written =>
    rw [Draft.ofJson, Draft.ofItems_eq_map, Draft.arr.injEq] at form
    rw [← form.1, List.mapM_map, Result.mapM_eq_ok_iff] at each
    exact ⟨written, rfl, each⟩
  | _ => cases form

end Json

variable {category : Category}

theorem isFinite_never : never.isFinite = true := by decide

/-- A state that is read has a finite time. -/
theorem State.isFinite_time_of_read {draft : Draft} {state : State category}
    (done : State.read category draft = .ok state) : state.time.isFinite = true := by
  cases draft with
  | obj fields closed =>
    simp only [State.read] at done
    obtain ⟨own, -, done⟩ := Result.bind_eq_ok_iff.1 done
    obtain ⟨addTime, -, done⟩ := Result.bind_eq_ok_iff.1 done
    obtain ⟨common, -, done⟩ := Result.bind_eq_ok_iff.1 done
    obtain ⟨relativeTime, -, done⟩ := Result.bind_eq_ok_iff.1 done
    -- the time is settled before the rest of the state is read and no longer changes
    have finite : ∀ time placement, (if closed then Except.ok
        (⟨time, relativeTime, addTime, own, common, placement⟩ : State category)
        else .error Mismatch.notJson) = .ok state → state.time = time := by
      intro time placement same
      split at same <;> cases same
      rfl
    split at done
    · obtain ⟨time, given, done⟩ := Result.bind_eq_ok_iff.1 done
      obtain ⟨placement, -, done⟩ := Result.bind_eq_ok_iff.1 done
      cases given
      rw [finite _ _ done]
      exact isFinite_never
    · obtain ⟨time, given, done⟩ := Result.bind_eq_ok_iff.1 done
      obtain ⟨placement, -, done⟩ := Result.bind_eq_ok_iff.1 done
      obtain ⟨t, -, rfl⟩ := Result.map_eq_ok_iff.1 given
      rw [finite _ _ done]
      exact t.property
  | scalar _ | arr _ _ | unreadable | broken => cases done

namespace StageObject

/-- What stands for the states in the draft of an object. -/
def statesIn? : Draft → Option Draft
  | .obj fields _ => State.givenIn fields "states"
  | .arr items _ => items[3]?
  | _ => none

/-- The states of an object are those that are written, in their order, and none if nothing stands
for them. -/
theorem states_of_read {draft : Draft} {object : StageObject category}
    (done : StageObject.read category draft = .ok object) :
    (∀ states, statesIn? draft = some states →
      Reader.list (State.read category) states = .ok object.states) ∧
    (statesIn? draft = none → object.states = []) := by
  obtain ⟨⟨id, targetId, parentId, states, ⟨⟩⟩, read, rfl⟩ := Result.map_eq_ok_iff.1 done
  have distinct : ((columns category).map Column.name).Nodup := by
    change ["id", "target_id", "parent_id", "states"].Nodup
    decide
  have taken := Record.takenFrom_of_read distinct read
  -- the states are the fourth column in either form
  have fourth (found : Option Draft) (takes : (Column.mk "states" (List (State category))
      (Reader.list (State.read category)) (some [])).Takes found states) :
      (∀ draft, found = some draft → Reader.list (State.read category) draft = .ok states) ∧
        (found = none → states = []) := by
    cases found with
    | some draft => exact ⟨fun _ same => Option.some.inj same ▸ takes, nofun⟩
    | none => exact ⟨nofun, fun _ => (Option.some.inj takes).symm⟩
  cases draft with
  | obj fields closed => exact fourth _ taken.2.2.2.1
  | arr items closed =>
    have place : items[3]? = items.tail.tail.tail.head? := by simp [List.head?_eq_getElem?]
    simp only [statesIn?, place]
    exact fourth _ taken.2.2.2.1
  | scalar _ | unreadable | broken => exact taken.elim

theorem isFinite_time_of_read {draft : Draft} {object : StageObject category}
    (done : StageObject.read category draft = .ok object) :
    ∀ state ∈ object.states, state.time.isFinite = true := by
  intro state member
  obtain ⟨written, bare⟩ := states_of_read done
  cases found : statesIn? draft with
  | some states =>
    obtain ⟨items, -, each⟩ := Reader.list_eq_ok (written states found)
    obtain ⟨item, -, given⟩ := Result.exists_of_mem_mapM each member
    exact State.isFinite_time_of_read given
  | none =>
    rw [bare found] at member
    cases member

end StageObject

/-! ## Objects of a load -/

theorem CategoryLoad.mem_ofOutcomes {outcomes : List (Outcome category)}
    {object : StageObject category} (member : object ∈ (ofOutcomes outcomes).table.objects) :
    ∃ outcome ∈ outcomes, outcome.result = .ok object := by
  have found := Table.get?_eq_some_iff.2 ⟨member, rfl⟩
  rw [get?_table_ofOutcomes] at found
  obtain ⟨outcome, among, given⟩ := List.mem_filterMap.1 (List.mem_of_find?_eq_some found)
  exact ⟨outcome, among, Result.eq_ok_of_toOption given⟩

theorem PerCategory.tryEach_eq_ok_iff {ε : Type} {α : Category → Type}
    {compute : (category : Category) → Except ε (α category)} {values : PerCategory α} :
    tryEach compute = .ok values ↔ ∀ category, compute category = .ok (values.get category) := by
  constructor
  · intro done category
    simp only [tryEach, Result.bind_eq_ok_iff] at done
    obtain ⟨_, texts, _, sprites, _, videos, _, lines, _, controllers, _, noteControllers, same⟩ :=
      done
    cases same
    cases category <;> assumption
  · intro each
    have texts := each .text
    have sprites := each .sprite
    have videos := each .video
    have lines := each .line
    have controllers := each .controller
    have noteControllers := each .noteController
    simp only [tryEach, texts, sprites, videos, lines, controllers, noteControllers]
    rfl

/-- A computation for each category fails with the fault of the first category that fails. -/
theorem PerCategory.tryEach_eq_error_iff {ε : Type} {α : Category → Type}
    {compute : (category : Category) → Except ε (α category)} {e : ε} :
    tryEach compute = .error e ↔
      Result.FirstBad (fun category => ∃ value, compute category = .ok value)
        (fun category => compute category = .error e) Category.all := by
  simp only [tryEach, Category.all, Result.firstBad_cons, Result.not_firstBad_nil,
    Result.bind_eq_error_iff, exists_and_right, pure, Except.pure, reduceCtorEq, and_false,
    exists_false, or_false]

theorem Compiled.exists_read_of_mem_objects {root : Node} {objects : List (StageObject category)}
    (done : Compiled.objects category root = .ok objects) {object : StageObject category}
    (member : object ∈ objects) : ∃ draft, StageObject.read category draft = .ok object := by
  unfold Compiled.objects at done
  split at done
  · obtain ⟨⟨item, position⟩, -, given⟩ := Result.exists_of_mem_mapM done member
    simp only at given
    split at given
    · next read =>
      cases given
      exact ⟨_, read⟩
    · cases given
  · cases done

/-- Every object of a compiled document was read from one of its elements. -/
theorem Board.exists_read_of_ofCompiled {root : Node} {board : Board}
    (done : Board.ofCompiled root = .ok board) {object : StageObject category}
    (member : object ∈ (board.tables.get category).objects) :
    ∃ draft, StageObject.read category draft = .ok object := by
  obtain ⟨loads, each, rfl⟩ := Result.map_eq_ok_iff.1 done
  obtain ⟨objects, read, loaded⟩ :=
    Result.map_eq_ok_iff.1 (PerCategory.tryEach_eq_ok_iff.1 each category)
  rw [Board.ofLoads, PerCategory.get_ofFn, ← loaded] at member
  obtain ⟨outcome, among, given⟩ := CategoryLoad.mem_ofOutcomes member
  obtain ⟨⟨found, index⟩, inside, rfl⟩ := List.mem_map.1 among
  cases given
  exact Compiled.exists_read_of_mem_objects read (List.fst_mem_of_mem_zipIdx inside)

end Storyboard
