import Storyboard.Proofs.Numbering
import Storyboard.Proofs.ReadValues
import Storyboard.Proofs.WrittenForm

/-!
# Loads of compiled documents

A compiled document is loaded as a whole or not at all. The first fault stops the load: a category
without an array, or an element that is no object of its category, in the order of the categories
and then of the elements. Without a fault, each table holds the first object of each id as it is
written, and every other object gives one diagnostic.

Main statement: `Board.ofJson_compiled`.
-/
namespace Storyboard

variable {category : Category}

/-! ## Repeated ids -/

namespace Compiled

/-- The diagnostics of objects: one for each object whose id an object in front of it has, with the
position of the object. -/
def repeats (objects : List (StageObject category)) : List Fault :=
  (withFront objects).filterMap fun (front, object) =>
    if ∃ earlier ∈ front, earlier.id = object.id then
      some (Outcome.redefinition category front.length object.id)
    else none

theorem code_of_mem_repeats {objects : List (StageObject category)} {fault : Fault}
    (member : fault ∈ repeats objects) : fault.cause.code = "E4101" := by
  obtain ⟨⟨front, object⟩, -, given⟩ := List.mem_filterMap.1 member
  obtain ⟨-, same⟩ := Option.ite_none_right_eq_some.1 given
  cases same
  rfl

/-- The outcomes that the objects of an array are. -/
def outcomes (objects : List (StageObject category)) : List (Outcome category) :=
  objects.zipIdx.map fun (object, index) => ⟨index, .ok object⟩

theorem objects_outcomes (objects : List (StageObject category)) :
    Outcome.objects (outcomes objects) = objects := by
  rw [Outcome.objects, outcomes, List.filterMap_map]
  refine Eq.trans ?_ (List.zipIdx_map_fst 0 objects)
  rw [← List.filterMap_eq_map]
  rfl

theorem first?_outcomes (objects : List (StageObject category)) (id : String) :
    Outcome.first? (outcomes objects) id = objects.find? fun object => object.id = id := by
  rw [Outcome.first?, objects_outcomes]

theorem countP_ends_outcomes (objects : List (StageObject category)) :
    (outcomes objects).countP Outcome.ends = objects.length := by
  rw [outcomes, List.countP_eq_length.2 (List.all_eq_true.1 (Outcome.all_ends_ok _)),
    List.length_map, List.length_zipIdx]

theorem diagnostics_outcomes (objects : List (StageObject category)) :
    Outcome.diagnostics (outcomes objects) = repeats objects := by
  have front : withFront (outcomes objects) = (withFront objects).map fun (front, object) =>
      (outcomes front, ⟨front.length, .ok object⟩) := by
    rw [outcomes, withFront_map, withFront_zipIdx, List.map_map]
    simp only [Function.comp_def, Nat.zero_add]
    rfl
  rw [Outcome.diagnostics, Outcome.diagnosticsBehind, front, List.filterMap_map, repeats]
  refine congrArg (List.filterMap · _) (funext fun entry => ?_)
  obtain ⟨front, object⟩ := entry
  simp only [Function.comp, List.nil_append, Outcome.diagnostic?, first?_outcomes]
  cases taken : front.find? fun earlier => earlier.id = object.id with
  | none =>
    rw [List.find?_eq_none] at taken
    rw [if_neg]
    · rfl
    · rintro ⟨earlier, member, same⟩
      exact taken earlier member (decide_eq_true same)
  | some earlier =>
    have same := List.find?_some taken
    rw [if_pos ⟨earlier, List.mem_of_find?_eq_some taken, of_decide_eq_true same⟩]
    rfl

/-! ## Elements -/

/-- An element of a category array is read as an object. -/
def Reads (category : Category) (item : Json) (object : StageObject category) : Prop :=
  StageObject.read category (.ofJson item) = .ok object

/-- What an element has for the states of its object. -/
def statesIn? : Json → Option Json
  | .obj fields => Keyed.get? fields "states"
  | .arr values => values[3]?
  | _ => none

/-- The states of an element, each read as it is written, in their order; an element without states
has none. -/
def WritesStates (item : Json) (states : List (State category)) : Prop :=
  (∀ value, statesIn? item = some value → ∃ written, value = .arr written ∧
    List.Forall₂ (fun state result => State.read category (.ofJson state) = .ok result)
      written states) ∧
  (statesIn? item = none → states = [])

theorem statesIn?_ofJson (item : Json) :
    StageObject.statesIn? (.ofJson item) = (statesIn? item).map Json.Draft.ofJson := by
  cases item with
  | obj fields => exact State.givenIn_ofFields fields "states"
  | arr values => simp [Json.Draft.ofJson, StageObject.statesIn?, statesIn?,
      Json.Draft.ofItems_eq_map]
  | _ => rfl

theorem Reads.writesStates {item : Json} {object : StageObject category}
    (read : Reads category item object) : WritesStates item object.states := by
  obtain ⟨written, bare⟩ := StageObject.states_of_read read
  rw [statesIn?_ofJson] at written bare
  constructor
  · intro value found
    exact Json.Reader.list_ofJson_eq_ok (written _ (by rw [found]; rfl))
  · intro absent
    exact bare (by rw [absent]; rfl)

/-! ## Categories -/

variable {root : Node} {fault : Fault}

/-- The array of a category is there, and every element of it is read as an object. -/
def Sound (root : Node) (category : Category) : Prop :=
  ∃ items, Keyed.get? root category.key = some (.arr items) ∧
    ∀ item ∈ items, ∃ object, Reads category item object

/-- What is wrong with a category: its array is missing, or the first element that is not read as an
object. -/
inductive Fails (root : Node) (category : Category) : Fault → Prop
  | missing (bare : ∀ items, Keyed.get? root category.key ≠ some (.arr items)) :
      Fails root category { Fault.of (.missingArray category) with category := some category }
  | unread {before after : List Json} {item : Json} {mismatch : Json.Mismatch}
      (given : Keyed.get? root category.key = some (.arr (before ++ item :: after)))
      (sound : ∀ earlier ∈ before, ∃ object, Reads category earlier object)
      (wrong : StageObject.read category (.ofJson item) = .error mismatch) :
      Fails root category ((Fault.of (.badObject mismatch)).located category before.length)

/-- The reader of an element, which comes with its position. -/
def element (category : Category) (entry : Json × Nat) : Except Fault (StageObject category) :=
  match StageObject.read category (.ofJson entry.1) with
  | .ok object => .ok object
  | .error mismatch => .error ((Fault.of (.badObject mismatch)).located category entry.2)

theorem element_eq_ok_iff {entry : Json × Nat} {object : StageObject category} :
    element category entry = .ok object ↔ Reads category entry.1 object := by
  rw [element, Reads]
  cases StageObject.read category (.ofJson entry.1) <;> simp

theorem element_eq_error_iff {entry : Json × Nat} :
    element category entry = .error fault ↔
      ∃ mismatch, StageObject.read category (.ofJson entry.1) = .error mismatch ∧
        fault = (Fault.of (.badObject mismatch)).located category entry.2 := by
  rw [element]
  cases StageObject.read category (.ofJson entry.1) <;> simp [eq_comm]

theorem objects_of_array {items : List Json}
    (given : Keyed.get? root category.key = some (.arr items)) :
    Compiled.objects category root = items.zipIdx.mapM (element category) := by
  rw [Compiled.objects, given]
  rfl

theorem objects_of_not_array (bare : ∀ items, Keyed.get? root category.key ≠ some (.arr items)) :
    Compiled.objects category root =
      .error { Fault.of (.missingArray category) with category := some category } := by
  unfold Compiled.objects
  split
  · next items given => exact absurd given (bare items)
  · rfl

theorem objects_eq_ok_iff {objects : List (StageObject category)} :
    Compiled.objects category root = .ok objects ↔
      ∃ items, Keyed.get? root category.key = some (.arr items) ∧
        List.Forall₂ (Reads category) items objects := by
  by_cases array : ∃ items, Keyed.get? root category.key = some (.arr items)
  · obtain ⟨items, given⟩ := array
    have values := List.forall₂_map_left_iff (f := Prod.fst) (l := items.zipIdx)
      (u := objects) (R := Reads category)
    rw [List.zipIdx_map_fst] at values
    rw [objects_of_array given, Result.mapM_eq_ok_iff, given]
    simp only [element_eq_ok_iff, Option.some.injEq, Json.arr.injEq, exists_eq_left', values]
  · rw [not_exists] at array
    rw [objects_of_not_array array]
    exact iff_of_false nofun fun ⟨items, given, _⟩ => array items given

/-- Every element has a value with its position exactly if it is read. -/
theorem forall_element_iff {items : List Json} :
    (∀ entry ∈ items.zipIdx, ∃ object, element category entry = .ok object) ↔
      ∀ item ∈ items, ∃ object, Reads category item object := by
  have values := List.forall_mem_map (f := Prod.fst) (l := items.zipIdx)
    (P := fun item => ∃ object, Reads category item object)
  rw [List.zipIdx_map_fst] at values
  simp only [element_eq_ok_iff, values]

theorem exists_objects_iff :
    (∃ objects, Compiled.objects category root = .ok objects) ↔ Sound root category := by
  by_cases array : ∃ items, Keyed.get? root category.key = some (.arr items)
  · obtain ⟨items, given⟩ := array
    rw [objects_of_array given, Result.exists_mapM_eq_ok_iff, forall_element_iff, Sound, given]
    simp only [Option.some.injEq, Json.arr.injEq, exists_eq_left']
  · rw [not_exists] at array
    rw [objects_of_not_array array]
    exact iff_of_false nofun fun ⟨items, given, _⟩ => array items given

theorem objects_eq_error_iff :
    Compiled.objects category root = .error fault ↔ Fails root category fault := by
  by_cases array : ∃ items, Keyed.get? root category.key = some (.arr items)
  · obtain ⟨items, given⟩ := array
    rw [objects_of_array given, Result.mapM_eq_error_iff]
    constructor
    · rintro ⟨_, ⟨item, index⟩, after, split, sound, wrong⟩
      obtain ⟨before, back, rfl, rfl, later⟩ := List.zipIdx_eq_append_iff.1 split
      obtain ⟨mismatch, failed, rfl⟩ := element_eq_error_iff.1 wrong
      obtain ⟨_, rest, rfl, same, rfl⟩ := List.zipIdx_eq_cons_iff.1 later.symm
      cases same
      rw [Nat.zero_add]
      exact .unread given (forall_element_iff.1 sound) failed
    · intro fails
      cases fails with
      | missing bare => exact absurd given (bare items)
      | @unread before after item mismatch found sound wrong =>
        rw [given] at found
        cases found
        refine ⟨before.zipIdx, (item, before.length), after.zipIdx (before.length + 1), ?_,
          forall_element_iff.2 sound, element_eq_error_iff.2 ⟨mismatch, wrong, rfl⟩⟩
        rw [List.zipIdx_append, List.zipIdx_cons, Nat.zero_add]
  · rw [not_exists] at array
    rw [objects_of_not_array array]
    constructor
    · intro same
      cases same
      exact .missing array
    · intro fails
      cases fails with
      | missing bare => rfl
      | unread given _ _ => exact absurd given (array _)

theorem Fails.code (fails : Fails root category fault) :
    fault.category = some category ∧
      ((∀ items, Keyed.get? root category.key ≠ some (.arr items)) ∧ fault.cause.code = "E1101" ∨
        (∃ items, Keyed.get? root category.key = some (.arr items)) ∧
          fault.cause.code = "E1102") := by
  cases fails with
  | missing bare => exact ⟨rfl, .inl ⟨bare, rfl⟩⟩
  | unread given sound wrong => exact ⟨rfl, .inr ⟨⟨_, given⟩, rfl⟩⟩

/-- The first category that is not sound fails with a fault. -/
def FirstFails (root : Node) (fault : Fault) : Prop :=
  Result.FirstBad (Sound root) (fun category => Fails root category fault) Category.all

theorem ofCategory_eq_ok_iff {load : CategoryLoad category} :
    ofCategory root category = .ok load ↔
      ∃ objects, Compiled.objects category root = .ok objects ∧
        CategoryLoad.ofOutcomes (outcomes objects) = load :=
  Result.map_eq_ok_iff

theorem exists_ofCategory_iff :
    (∃ load, ofCategory root category = .ok load) ↔ Sound root category := by
  rw [← exists_objects_iff]
  simp only [ofCategory_eq_ok_iff]
  constructor
  · rintro ⟨_, objects, read, _⟩
    exact ⟨objects, read⟩
  · rintro ⟨objects, read⟩
    exact ⟨_, objects, read, rfl⟩

theorem ofCategory_eq_error_iff :
    ofCategory root category = .error fault ↔ Fails root category fault := by
  rw [ofCategory, Result.map_eq_error_iff, objects_eq_error_iff]

/-- A table is what the elements of the array of a category load as: the elements are read as
objects, each with the states that are written; an id refers to the first object that has it; and
every object is in the table or repeats an id. -/
structure LoadsAs (root : Node) (category : Category) (items : List Json)
    (objects : List (StageObject category)) (table : Table category) : Prop where
  array : Keyed.get? root category.key = some (.arr items)
  read : List.Forall₂ (fun item object =>
    Reads category item object ∧ WritesStates item object.states) items objects
  first : ∀ id, table.get? id = objects.find? fun object => object.id = id
  counted : table.size + (repeats objects).length = items.length

end Compiled

/-! ## Documents -/

namespace Board

open Compiled

variable {chart : Chart} {root : Node} {fault : Fault}

theorem ofJson_of_compiled (compiled : isCompiled root = true) :
    ofJson chart false (.obj root) = (ofCompiled root).mapError .failed := by
  simp only [ofJson, compiled, if_true]
  cases ofCompiled root <;> rfl

theorem ofCompiled_eq_error_iff : ofCompiled root = .error fault ↔ FirstFails root fault := by
  rw [ofCompiled, Result.map_eq_error_iff, PerCategory.tryEach_eq_error_iff]
  simp only [exists_ofCategory_iff, ofCategory_eq_error_iff, FirstFails]

theorem exists_ofCompiled_iff :
    (∃ board, ofCompiled root = .ok board) ↔ ∀ category, Sound root category := by
  constructor
  · rintro ⟨board, done⟩ category
    obtain ⟨loads, each, -⟩ := Result.map_eq_ok_iff.1 done
    exact exists_ofCategory_iff.1 ⟨_, PerCategory.tryEach_eq_ok_iff.1 each category⟩
  · intro sound
    choose load loaded using fun category => exists_ofCategory_iff.2 (sound category)
    have each : PerCategory.tryEach (ofCategory root) = .ok (.ofFn load) := by
      refine PerCategory.tryEach_eq_ok_iff.2 fun category => ?_
      rw [loaded, PerCategory.get_ofFn]
    exact ⟨_, Result.map_eq_ok_iff.2 ⟨_, each, rfl⟩⟩

theorem ofCompiled_eq_error_iff_not_sound :
    (∃ fault, ofCompiled root = .error fault) ↔ ∃ category, ¬ Sound root category := by
  rw [← not_forall, ← exists_ofCompiled_iff]
  cases ofCompiled root <;> simp

/-- A document that loads makes in each category what its elements are read as. -/
theorem exists_objects_of_ofCompiled {board : Board} (done : ofCompiled root = .ok board) :
    ∃ (items : Category → List Json)
      (objects : (category : Category) → List (StageObject category)),
      (∀ category, LoadsAs root category (items category) (objects category)
        (board.tables.get category)) ∧
      board.diagnostics = Category.all.flatMap fun category => repeats (objects category) := by
  obtain ⟨loads, each, rfl⟩ := Result.map_eq_ok_iff.1 done
  choose objects read made using fun category =>
    ofCategory_eq_ok_iff.1 (PerCategory.tryEach_eq_ok_iff.1 each category)
  choose items given values using fun category => objects_eq_ok_iff.1 (read category)
  refine ⟨items, objects, fun category => ?_, ?_⟩
  · have table : ((ofLoads loads).tables.get category) =
        (CategoryLoad.ofOutcomes (outcomes (objects category))).table := by
      rw [ofLoads, PerCategory.get_ofFn, made]
    constructor
    · exact given category
    · exact (values category).imp fun item object read => ⟨read, read.writesStates⟩
    · intro id
      rw [table, CategoryLoad.get?_table_ofOutcomes, first?_outcomes]
    · rw [table, ← diagnostics_outcomes, ← CategoryLoad.diagnostics_ofOutcomes,
        CategoryLoad.size_ofOutcomes, countP_ends_outcomes, (values category).length_eq]
  · simp only [ofLoads, PerCategory.toList, List.flatMap_def]
    refine congrArg List.flatten (List.map_congr_left fun category _ => ?_)
    rw [← made, CategoryLoad.diagnostics_ofOutcomes, diagnostics_outcomes]

/-- **Loads of compiled documents.** A lenient load of a compiled document fails exactly with the
fault of the first category that is not sound, which is that of its missing array or that of the
first element of its array that is not read. If all categories are sound then each table holds the
first object of each id, read with the states that are written; every other object gives one
diagnostic under its category, with its position and its id; and the diagnostics come in the order
of the categories and the elements, so objects and diagnostics together are as many as elements. -/
theorem ofJson_compiled (compiled : isCompiled root = true) :
    (∀ stop, ofJson chart false (.obj root) = .error stop ↔
      ∃ fault, FirstFails root fault ∧ .failed fault = stop) ∧
    ((∃ stop, ofJson chart false (.obj root) = .error stop) ↔
      ∃ category, ¬ Sound root category) ∧
    (∀ category fault, Fails root category fault → fault.category = some category ∧
      ((∀ items, Keyed.get? root category.key ≠ some (.arr items)) ∧ fault.cause.code = "E1101" ∨
        (∃ items, Keyed.get? root category.key = some (.arr items)) ∧
          fault.cause.code = "E1102")) ∧
    ∀ board, ofJson chart false (.obj root) = .ok board →
      ∃ (items : Category → List Json)
        (objects : (category : Category) → List (StageObject category)),
        (∀ category, LoadsAs root category (items category) (objects category)
          (board.tables.get category)) ∧
        board.diagnostics = Category.all.flatMap (fun category => repeats (objects category)) ∧
        ∀ fault ∈ board.diagnostics, fault.cause.code = "E4101" := by
  have stops (stop : Stop Fault) : ofJson chart false (.obj root) = .error stop ↔
      ∃ fault, FirstFails root fault ∧ .failed fault = stop := by
    simp only [ofJson_of_compiled compiled, Result.mapError_eq_error_iff, ofCompiled_eq_error_iff]
  refine ⟨stops, ?_, fun category fault fails => fails.code, fun board done => ?_⟩
  · simp only [stops, ← ofCompiled_eq_error_iff_not_sound, ofCompiled_eq_error_iff]
    exact ⟨fun ⟨_, fault, first, _⟩ => ⟨fault, first⟩, fun ⟨fault, first⟩ => ⟨_, fault, first, rfl⟩⟩
  rw [ofJson_of_compiled compiled, Result.mapError_eq_ok_iff] at done
  obtain ⟨items, objects, loaded, reported⟩ := exists_objects_of_ofCompiled done
  refine ⟨items, objects, loaded, reported, fun fault member => ?_⟩
  rw [reported] at member
  obtain ⟨category, -, among⟩ := List.mem_flatMap.1 member
  exact code_of_mem_repeats among

/-! Three texts, of which the last repeats the id of the first, and texts of which the last is none:
the categories that are missing behind them are not reported. -/

def doubledTexts : List Json :=
  [.obj [("id", .str "a"), ("states", .arr [.obj [("time", .int 2)], .obj [("time", .int 1)]])],
    .arr [.str "b"], .obj [("id", .str "a"), ("parent_id", .str "b")]]

def doubledRoot : Node :=
  [("compiled", .bool true), ("texts", .arr doubledTexts), ("sprites", .arr []),
    ("videos", .arr []), ("lines", .arr []), ("controllers", .arr []),
    ("note_controllers", .arr [])]

def unreadRoot : Node :=
  [("compiled", .bool true), ("texts", .arr [.obj [("id", .str "a")], .arr [.str "a"], .null])]

theorem ofJson_compiled_doubled :
    isCompiled doubledRoot = true ∧
    (∃ board, ofJson Chart.empty false (.obj doubledRoot) = .ok board ∧
      (board.tables.get .text).size = 2 ∧
      board.diagnostics.map (fun fault => (fault.category, fault.index, fault.objectId)) =
        [(some .text, some 2, some "a")] ∧
      (∀ fault ∈ board.diagnostics, fault.cause.code = "E4101") ∧
      ∃ objects, LoadsAs doubledRoot .text doubledTexts objects (board.tables.get .text)) ∧
    isCompiled unreadRoot = true ∧
    ∃ fault, ofJson Chart.empty false (.obj unreadRoot) = .error (.failed fault) ∧
      fault.cause.code = "E1102" ∧ fault.category = some .text ∧ fault.index = some 2 := by
  have doubled : isCompiled doubledRoot = true := by decide
  have unread : isCompiled unreadRoot = true := by decide
  refine ⟨doubled, ?_, unread, ?_⟩
  · have computed : (ofJson Chart.empty false (.obj doubledRoot)).toOption.map (fun board =>
          ((board.tables.get .text).size,
            board.diagnostics.map fun fault => (fault.category, fault.index, fault.objectId))) =
        some (2, [(some .text, some 2, some "a")]) := by decide +kernel
    obtain ⟨board, given, values⟩ := Option.map_eq_some_iff.1 computed
    rw [Prod.mk.injEq] at values
    have loaded := Result.eq_ok_of_toOption given
    obtain ⟨items, objects, each, -, codes⟩ := (ofJson_compiled doubled).2.2.2 board loaded
    have texts := each .text
    have same : items .text = doubledTexts := Json.arr.inj (Option.some.inj texts.array.symm)
    rw [same] at texts
    exact ⟨board, loaded, values.1, values.2, codes, objects .text, texts⟩
  · have sound : ∀ earlier ∈ [.obj [("id", .str "a")], .arr [.str "a"]],
        ∃ object, Reads .text earlier object := by
      simp only [List.forall_mem_cons]
      exact ⟨⟨_, rfl⟩, ⟨_, rfl⟩, nofun⟩
    have fails := @Fails.unread unreadRoot .text _ [] .null _ rfl sound rfl
    have first : FirstFails unreadRoot _ := ⟨[], .text, _, rfl, nofun, fails⟩
    exact ⟨_, ((ofJson_compiled unread).1 _).2 ⟨_, first, rfl⟩, rfl, rfl, rfl⟩

end Board
end Storyboard
