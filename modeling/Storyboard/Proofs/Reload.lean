import Storyboard.Proofs.Numbering
import Storyboard.Proofs.ReadValues
import Storyboard.Proofs.WrittenForm

/-!
# Compiling and loading again

The compiled form of a board loads without any fault and gives the tables of the board. The only
thing that may change is a time that is infinite or NaN: it comes back as `never`. A board that was
itself loaded from compiled form has finite times only, so nothing changes any more.
-/
namespace Storyboard

open Json

variable {category : Category}

/-! ## Tables -/

namespace Table

/-- The table whose states have their settled times. -/
def settled (table : Table category) : Table category where
  objects := table.objects.map StageObject.settled
  sorted := List.pairwise_map.2 table.sorted

theorem place_last {object : StageObject category} {objects : List (StageObject category)}
    (below : ∀ other ∈ objects, other.id < object.id) :
    place object objects = objects ++ [object] := by
  induction objects with
  | nil => rfl
  | cons first rest ih =>
    -- the new object has the largest id, so the search for its place runs to the end
    have before : first.id < object.id := below first (List.mem_cons_self ..)
    have notAfter : ¬ object.id < first.id := fun after =>
      String.lt_irrefl _ (String.lt_trans before after)
    rw [place, if_neg notAfter, ih fun other member => below other (List.mem_cons_of_mem _ member)]
    rfl

/-- An object behind all others is added at the end. -/
theorem add?_last {table : Table category} {object : StageObject category}
    (below : ∀ other ∈ table.objects, other.id < object.id) :
    ∃ larger, table.add? object = some larger ∧ larger.objects = table.objects ++ [object] := by
  have fresh : ∀ other ∈ table.objects, other.id ≠ object.id := fun other member same =>
    String.lt_irrefl object.id (same ▸ below other member)
  exact ⟨_, dif_pos fresh, place_last below⟩

end Table

/-- Objects that come in the order of their ids are all kept. -/
theorem Outcome.collect_sorted (held table : Table category)
    {objects : List (StageObject category)} (start : Nat)
    (together : table.objects = held.objects ++ objects) :
    collect Table.add? held
      ((objects.zipIdx start).map fun (object, index) => ⟨index, .ok object⟩) = (table, []) := by
  induction objects generalizing held start with
  | nil =>
    rw [List.append_nil] at together
    rw [Table.eq_of_objects_eq together]
    rfl
  | cons object rest ih =>
    -- the table is sorted, so the next object stands behind all that are held
    have sorted := table.sorted
    rw [together] at sorted
    obtain ⟨larger, added, grown⟩ := Table.add?_last fun other member =>
      (List.pairwise_append.1 sorted).2.2 other member object (List.mem_cons_self ..)
    simp only [List.zipIdx_cons, List.map_cons, collect, added]
    refine ih larger (start + 1) ?_
    rw [together, grown, List.append_assoc]
    rfl

theorem CategoryLoad.ofOutcomes_table (table : Table category) :
    ofOutcomes (table.objects.zipIdx.map fun (object, index) => ⟨index, .ok object⟩) =
      ⟨table, [], true⟩ := by
  have kept := Outcome.collect_sorted Table.empty table 0 (List.nil_append table.objects).symm
  rw [ofOutcomes_eq_collect, kept, Outcome.all_ends_ok]

/-! ## Boards -/

def Tables.settled (tables : Tables) : Tables := .ofFn fun category => (tables.get category).settled

/-- No state has a time that is infinite or NaN. -/
def Tables.Finite (tables : Tables) : Prop :=
  ∀ category, ∀ object ∈ (tables.get category).objects, ∀ state ∈ object.states,
    state.time.isFinite = true

theorem Tables.settled_eq_self {tables : Tables} (finite : tables.Finite) :
    tables.settled = tables := by
  refine PerCategory.ext_get fun category => Table.eq_of_objects_eq ?_
  rw [settled, PerCategory.get_ofFn, Table.settled]
  refine (List.map_congr_left fun object member => ?_).trans (List.map_id _)
  have same : object.states.map State.settled = object.states :=
    (List.map_congr_left fun state inside =>
      State.settled_eq_self (finite category object member state inside)).trans (List.map_id _)
  rw [StageObject.settled, same]
  rfl

namespace Board

/-- The fields of the compiled form. -/
def compiledFields (board : Board) : Node := strippedFields (Keyed.ofList board.toFields)

/-- No key is written twice, so a value is found under its key, stripped. -/
theorem get?_compiledFields {board : Board} {key : String} {value : Json}
    (written : Keyed.get? board.toFields key = some value) (solid : value ≠ .null) :
    Keyed.get? board.compiledFields key = some value.stripped := by
  have keys : board.toFields.map Prod.fst = "compiled" :: Category.all.map Category.key := rfl
  have distinct : (board.toFields.map Prod.fst).Nodup := by
    rw [keys]
    decide
  rw [compiledFields, get?_strippedFields_ofList distinct, get?_strippedFields distinct, written,
    Option.bind_some, if_neg solid]

theorem isCompiled_compile (board : Board) : isCompiled board.compiledFields = true := by
  have written : Keyed.get? board.toFields "compiled" = some (.bool true) := rfl
  rw [isCompiled, get?_compiledFields written nofun]
  rfl

theorem get?_toFields (board : Board) (category : Category) :
    Keyed.get? board.toFields category.key = some (board.tables.get category).toJson := by
  cases category <;>
    simp [toFields, PerCategory.toList, Category.all, Category.key, Keyed.get?]

theorem hasNull_compile (board : Board) : board.compile.hasNull = false := by
  refine hasNull_stripped_ofFields fun field member _ => ?_
  rcases List.mem_cons.1 member with rfl | member
  · rfl
  · obtain ⟨category, -, rfl⟩ := List.mem_map.1 member
    refine hasNull_stripped_arr fun item inside => ?_
    obtain ⟨object, -, rfl⟩ := List.mem_map.1 inside
    exact object.hasNull_toJson

theorem objects_compile (board : Board) (category : Category) :
    Compiled.objects category board.compiledFields =
      .ok (board.tables.get category).settled.objects := by
  rw [Compiled.objects, get?_compiledFields (board.get?_toFields category) nofun, Table.toJson,
    stripped, strippedItems_eq_map, List.map_map]
  simp only [List.zipIdx_map, List.mapM_map]
  refine (Result.mapM_eq_ok_map (g := fun entry => entry.1.settled) ?_).trans
    (congrArg Except.ok ?_)
  · intro entry _
    rw [Function.comp_apply, Prod.map_fst, Function.comp_apply, StageObject.read_toJson]
  change _ = (board.tables.get category).objects.map StageObject.settled
  conv => rhs; rw [← List.zipIdx_map_fst 0 (board.tables.get category).objects]
  rw [List.map_map]
  rfl

/-- The board that is loaded from the compiled form of a board. -/
def reloaded (board : Board) : Board := { empty with tables := board.tables.settled }

theorem ofJson_compile (chart : Chart) (strict : Bool) (board : Board) :
    ofJson chart strict board.compile = .ok board.reloaded := by
  -- each category is read back on its own, without any fault
  have loads : PerCategory.tryEach (Compiled.ofCategory board.compiledFields) =
      .ok (.ofFn fun category => ⟨(board.tables.get category).settled, [], true⟩) := by
    refine PerCategory.tryEach_eq_ok_iff.2 fun category => ?_
    rw [Compiled.ofCategory, objects_compile, PerCategory.get_ofFn]
    exact congrArg _ (CategoryLoad.ofOutcomes_table _)
  have form : board.compile = .obj board.compiledFields := rfl
  have whole : ofCompiled board.compiledFields = .ok board.reloaded := by
    rw [ofCompiled, loads]
    rfl
  simp only [form, ofJson, isCompiled_compile, if_true, whole]
  cases strict <;> rfl

theorem tables_finite_of_ofCompiled {root : Node} {board : Board}
    (done : ofCompiled root = .ok board) : board.tables.Finite := by
  intro category object member
  obtain ⟨draft, read⟩ := exists_read_of_ofCompiled done member
  exact StageObject.isFinite_time_of_read read

/-- A document that is accepted in compiled form has finite times only. -/
theorem tables_finite_of_ofJson {chart : Chart} {strict : Bool} {root : Node} {board : Board}
    (compiled : isCompiled root = true) (accepted : ofJson chart strict (.obj root) = .ok board) :
    board.tables.Finite := by
  simp only [ofJson, if_pos compiled] at accepted
  obtain ⟨loaded, done, passed⟩ := Result.bind_eq_ok_iff.1 accepted
  rw [← eq_of_checked (Result.mapError_eq_ok_iff.1 passed)]
  exact tables_finite_of_ofCompiled (Result.mapError_eq_ok_iff.1 done)

/-- **Compile, then load again.** The compiled form of a board that was loaded holds no null, and
it loads against any chart, strictly or not, into the tables of the board alone. Only a time that
is infinite or NaN changes, to `never`. If there is none then the tables and the compiled form stay
the same, and so it is for every board that was loaded from compiled form. -/
theorem compile_reloads (chart : Chart) (strict : Bool) (document : Json) (board : Board)
    (accepted : ofJson chart strict document = .ok board) :
    board.compile.hasNull = false ∧
    (∀ (other : Chart) (strictly : Bool), ∃ again,
      ofJson other strictly board.compile = .ok again ∧
      again.diagnostics = [] ∧ again.triggers = [] ∧ again.templates = Templates.empty ∧
      again.tables = board.tables.settled ∧
      (board.tables.Finite → again.tables = board.tables ∧ again.compile = board.compile)) ∧
    (∀ root, document = .obj root → isCompiled root = true → board.tables.Finite) := by
  refine ⟨board.hasNull_compile, fun other strictly => ?_, ?_⟩
  · refine ⟨board.reloaded, ofJson_compile other strictly board, rfl, rfl, rfl, rfl, ?_⟩
    intro finite
    -- the compiled form is a function of the tables, so it does not change either
    have same : board.reloaded.tables = board.tables := Tables.settled_eq_self finite
    exact ⟨same, congrArg (fun tables => compile { board with tables }) same⟩
  · rintro root rfl compiled
    exact tables_finite_of_ofJson compiled accepted

/-! A time that is not kept: a text shown from an infinite offset on. -/

def infiniteDocument : Json :=
  .obj [("texts", .arr [.obj [("id", .str "a"), ("time", .str "start:1:inf")]])]

def infiniteChart : Chart where
  notes := [⟨1, 0, .zero false, 0, .zero false, .zero false, .zero false⟩]
  sorted := List.pairwise_singleton ..

def infiniteBoard : Board :=
  let state := { State.blank .text with time := Binary64.infinity false }
  { empty with
    tables := { Tables.empty with texts := ⟨[⟨"a", none, none, [state]⟩], by simp⟩ } }

theorem compile_reloads_infinite_time :
    ofJson infiniteChart false infiniteDocument = .ok infiniteBoard ∧
    infiniteBoard.compile.hasNull = false ∧
    ∃ again, ofJson Chart.empty true infiniteBoard.compile = .ok again ∧
      again.diagnostics = [] ∧ again.tables = infiniteBoard.tables.settled ∧
      again.tables ≠ infiniteBoard.tables := by
  have accepted : ofJson infiniteChart false infiniteDocument = .ok infiniteBoard :=
    Result.eq_ok_of_toOption (by decide +kernel)
  obtain ⟨clean, reloads, -⟩ :=
    compile_reloads infiniteChart false infiniteDocument infiniteBoard accepted
  obtain ⟨again, loaded, quiet, -, -, tables, -⟩ := reloads Chart.empty true
  refine ⟨accepted, clean, again, loaded, quiet, tables, ?_⟩
  rw [tables]
  decide +kernel

end Board
end Storyboard
