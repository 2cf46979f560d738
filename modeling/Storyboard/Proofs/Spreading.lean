import Storyboard.Proofs.Alike
import Storyboard.Proofs.Isolation

/-!
# Spreading declarations

Fanning out is shorthand at every level. An element of a category array, or of the `states` of a
declaration at any depth, can be replaced by the declarations that it fans out to, if each of them
stands for itself. The document then makes the same tables, with the same generated ids, and the
same triggers; its diagnostics are the same but for the positions of the elements.
-/
namespace Storyboard

open Result (Matches)

variable {category : Category} {chart : Chart} {templates : Templates}

/-! ## Diagnostics without positions -/

/-- A fault without the position of its element. -/
def Fault.unplaced (fault : Fault) : Fault := { fault with index := none }

namespace Outcome

variable {front other : List (Outcome category)}

theorem first?_of_results (same : front.map result = other.map result) (id : String) :
    first? front id = first? other id := by
  have objects_eq (outcomes : List (Outcome category)) :
      objects outcomes = (outcomes.map result).filterMap Except.toOption := by
    rw [objects, List.filterMap_map]
    rfl
  rw [first?, first?, objects_eq, objects_eq, same]

/-- The diagnostics of outcomes with the same results are the same but for the positions. -/
theorem unplaced_diagnosticsBehind {outcomes others : List (Outcome category)}
    (fronts : front.map result = other.map result)
    (same : outcomes.map result = others.map result) :
    (diagnosticsBehind front outcomes).map Fault.unplaced =
      (diagnosticsBehind other others).map Fault.unplaced := by
  induction outcomes generalizing front other others with
  | nil =>
    rw [List.map_eq_nil_iff.1 same.symm]
    rfl
  | cons outcome rest ih =>
    cases others with
    | nil => cases same
    | cons twin further =>
      obtain ⟨own, later⟩ := List.cons_eq_cons.1 same
      -- whether an id is taken is seen from the results in front, and the fault from the result
      have reported : (diagnostic? front outcome).map Fault.unplaced =
          (diagnostic? other twin).map Fault.unplaced := by
        rw [diagnostic?_congr (first?_of_results fronts)]
        obtain ⟨index, result⟩ := outcome
        obtain ⟨position, _⟩ := twin
        cases own
        cases result with
        | error stop => cases stop <;> rfl
        | ok object =>
          simp only [diagnostic?, Option.map_map]
          rfl
      have fronts : (front ++ [outcome]).map result = (other ++ [twin]).map result := by
        rw [List.map_append, List.map_append, fronts, List.map_singleton, List.map_singleton, own]
      rw [diagnosticsBehind_cons, diagnosticsBehind_cons, List.map_append, List.map_append,
        ih fronts later, ← Option.toList_map, ← Option.toList_map, reported]

end Outcome

namespace Declarations

/-! ## Elements and what they stand for -/

/-- What an array element stands for, wherever it stands. -/
def standsFor (chart : Chart) : Json → List (Except Fault Node)
  | .obj node =>
    match fanOut chart node with
    | .error fault => [.error fault]
    | .ok nodes => nodes.map .ok
  | _ => [.error (.of .declarationNotObject)]

theorem map_node_variantsOf (item : Json) (index : Nat) :
    (variantsOf chart (item, index)).map Variant.node = standsFor chart item := by
  cases item with
  | obj node =>
    simp only [variantsOf, standsFor]
    cases fanOut chart node with
    | error fault => rfl
    | ok nodes => exact List.map_map
  | _ => rfl

theorem map_node_variants (items : List Json) :
    (variants chart items).map Variant.node = items.flatMap (standsFor chart) := by
  have along (position : Nat) : (variantsBehind chart position items).map Variant.node =
      items.flatMap (standsFor chart) := by
    induction items generalizing position with
    | nil => rfl
    | cons item rest ih =>
      rw [List.flatMap_cons, ← ih (position + 1), ← map_node_variantsOf item position,
        ← List.map_append]
      rfl
  exact along 0

theorem flatMap_standsFor_single {variants : List Node}
    (single : ∀ variant ∈ variants, fanOut chart variant = .ok [variant]) :
    (variants.map Json.obj).flatMap (standsFor chart) = variants.map .ok := by
  induction variants with
  | nil => rfl
  | cons variant rest ih =>
    have others := ih fun other member => single other (List.mem_cons_of_mem _ member)
    rw [List.map_cons, List.flatMap_cons, others, standsFor,
      single variant (List.mem_cons_self ..)]
    rfl

/-- A spread array stands for the same declarations up to how they nest. -/
theorem standsFor_of_spread {items others : List Json} (spread : Spread chart items others) :
    List.Forall₂ (Matches (Alike chart)) (items.flatMap (standsFor chart))
      (others.flatMap (standsFor chart)) := by
  have same (items : List Json) : List.Forall₂ (Matches (Alike chart))
      (items.flatMap (standsFor chart)) (items.flatMap (standsFor chart)) :=
    List.forall₂_same.2 fun node _ => .refl Alike.refl node
  cases spread with
  | @here front back declaration variants fanned single =>
    have own : [Json.obj declaration].flatMap (standsFor chart) = variants.map .ok := by
      simp only [List.flatMap_cons, List.flatMap_nil, List.append_nil, standsFor, fanned]
    have whole : (front ++ .obj declaration :: back).flatMap (standsFor chart) =
        (front ++ variants.map Json.obj ++ back).flatMap (standsFor chart) := by
      rw [List.append_cons, List.flatMap_append, List.flatMap_append, List.flatMap_append,
        List.flatMap_append, own, flatMap_standsFor_single single]
    rw [whole]
    exact same _
  | @deeper front back declaration inner others given inside =>
    have alike := (Alike.of_spread given inside).fanOut
    have own : List.Forall₂ (Matches (Alike chart)) (standsFor chart (.obj declaration))
        (standsFor chart (.obj (Keyed.insert "states" (.arr others) declaration))) := by
      rw [standsFor, standsFor]
      generalize fanOut chart declaration = one,
        fanOut chart (Keyed.insert "states" (.arr others) declaration) = two at alike
      cases alike with
      | error fault => exact .cons (.error fault) .nil
      | ok nodes =>
        dsimp only
        rw [List.forall₂_map_left_iff, List.forall₂_map_right_iff]
        exact nodes.imp fun _ _ => .ok
    rw [List.flatMap_append, List.flatMap_append, List.flatMap_cons, List.flatMap_cons]
    exact List.rel_append (same front) (List.rel_append own (same back))

/-! ## Outcomes -/

/-- Variants are as good as others if they become the same objects or the same faults. -/
def AsGoodAs (chart : Chart) (templates : Templates) (category : Category)
    (found others : List Variant) : Prop :=
  List.Forall₂ (fun variant other => variant.prepared chart templates category =
    other.prepared chart templates category) found others

theorem asGoodAs_of_spread {items others : List Json} (spread : Spread chart items others) :
    AsGoodAs chart templates category (variants chart items) (variants chart others) := by
  have nodes := standsFor_of_spread spread
  -- the positions differ, but what a variant becomes does not depend on its position
  rw [← map_node_variants, ← map_node_variants, List.forall₂_map_left_iff,
    List.forall₂_map_right_iff] at nodes
  refine nodes.imp fun variant other alike => ?_
  refine ((alike.mapError _).bind fun node twin alike => ?_).eq
  rw [alike.ofNode_eq]
  exact .of_eq _

namespace AsGoodAs

variable {found others : List Variant}

theorem numbers_eq (good : AsGoodAs chart templates category found others) :
    numbers chart templates category found = numbers chart templates category others := by
  induction good with
  | nil => rfl
  | @cons variant other rest further same _ ih =>
    rw [numbers_cons, numbers_cons other, ih, numbers_singleton, numbers_singleton,
      Variant.isNumbered, Variant.isNumbered, same]

theorem results_eq (good : AsGoodAs chart templates category found others) (counter : Nat) :
    (outcomesFrom chart templates category counter found).map Outcome.result =
      (outcomesFrom chart templates category counter others).map Outcome.result := by
  induction good generalizing counter with
  | nil => rfl
  | @cons variant other rest further same _ ih =>
    -- both take a number or neither does, so the counter goes on alike
    have number : numbers chart templates category [variant] =
        numbers chart templates category [other] := numbers_eq (.cons same .nil)
    rw [outcomesFrom_cons, outcomesFrom_cons, List.map_cons, List.map_cons, number, ih,
      Variant.result_outcome, Variant.result_outcome, same]

theorem all_ends_eq (good : AsGoodAs chart templates category found others) :
    found.all (Variant.ends chart templates category) =
      others.all (Variant.ends chart templates category) := by
  induction good with
  | nil => rfl
  | @cons variant other rest further same _ ih =>
    rw [List.all_cons, List.all_cons, ih, Variant.ends, Variant.ends, same]

end AsGoodAs

/-! ## Documents -/

/-- A document of declarations with an array of a category in it, spread. -/
structure SpreadIn (chart : Chart) (root : Node) (category : Category) (items others : List Json) :
    Prop where
  given : Keyed.get? root category.key = some (.arr items)
  spread : Spread chart items others

namespace SpreadIn

variable {root : Node} {items others : List Json} {other : Category}

theorem given? (spread : SpreadIn chart root category items others) :
    root.given? category.key = some (.arr items) := by
  rw [Node.given?, spread.given]

theorem asGoodAs (spread : SpreadIn chart root category items others) (other : Category) :
    AsGoodAs chart templates other (variantsIn chart root other)
      (variantsIn chart (Keyed.insert category.key (.arr others) root) other) := by
  by_cases same : category = other
  · subst same
    rw [variantsIn, variantsIn, elements_insert, elements_of_array spread.given?]
    exact asGoodAs_of_spread spread.spread
  · rw [variantsIn, variantsIn, elements_insert_of_ne same]
    exact List.forall₂_same.2 fun _ _ => rfl

theorem start_eq (spread : SpreadIn chart root category items others) (other : Category) :
    start chart templates root other =
      start chart templates (Keyed.insert category.key (.arr others) root) other := by
  simp only [start, (spread.asGoodAs _).numbers_eq]

theorem results_eq (spread : SpreadIn chart root category items others) (other : Category) :
    (outcomesIn chart templates root other).map Outcome.result =
      (outcomesIn chart templates (Keyed.insert category.key (.arr others) root) other).map
        Outcome.result := by
  rw [outcomesIn, outcomesIn, ← spread.start_eq]
  exact (spread.asGoodAs other).results_eq _

theorem tables_eq (spread : SpreadIn chart root category items others) :
    (board chart templates root).tables =
      (board chart templates (Keyed.insert category.key (.arr others) root)).tables := by
  refine PerCategory.ext_get fun other => Table.ext_get? fun id => ?_
  rw [get?_tables_board, get?_tables_board, Outcome.first?_of_results (spread.results_eq other)]

theorem diagnosticsIn_eq (spread : SpreadIn chart root category items others) (other : Category) :
    (diagnosticsIn chart templates root other).map Fault.unplaced =
      (diagnosticsIn chart templates (Keyed.insert category.key (.arr others) root) other).map
        Fault.unplaced := by
  have same : (Outcome.diagnostics (outcomesIn chart templates root other)).map Fault.unplaced =
      (Outcome.diagnostics (outcomesIn chart templates
        (Keyed.insert category.key (.arr others) root) other)).map Fault.unplaced :=
    Outcome.unplaced_diagnosticsBehind rfl (spread.results_eq other)
  rw [diagnosticsIn, diagnosticsIn, given?_insert_key]
  by_cases here : category = other
  · subst here
    rw [spread.given?, if_pos rfl]
    exact same
  · rw [if_neg here]
    split
    · exact same
    · exact same
    · rfl

theorem diagnostics_eq (spread : SpreadIn chart root category items others) :
    (board chart templates root).diagnostics.map Fault.unplaced =
      (board chart templates (Keyed.insert category.key (.arr others) root)).diagnostics.map
        Fault.unplaced := by
  simp only [board, Removal.triggers_insert, List.map_append, List.map_flatMap,
    spread.diagnosticsIn_eq]

theorem ends_eq (spread : SpreadIn chart root category items others) :
    ends chart templates root =
      ends chart templates (Keyed.insert category.key (.arr others) root) := by
  simp only [ends, (spread.asGoodAs _).all_ends_eq]

end SpreadIn
end Declarations

namespace Board

open Declarations

variable {root : Node} {items others : List Json}

/-- Boards that are the same but for the positions in their diagnostics. -/
structure SameButPlaces (board other : Board) : Prop where
  tables : board.tables = other.tables
  triggers : board.triggers = other.triggers
  templates : board.templates = other.templates
  diagnostics : board.diagnostics.map Fault.unplaced = other.diagnostics.map Fault.unplaced

theorem sameButPlaces_of_spread (spread : SpreadIn chart root category items others) :
    SameButPlaces (board chart templates root)
      (board chart templates (Keyed.insert category.key (.arr others) root)) where
  tables := spread.tables_eq
  triggers := by rw [board, board, Removal.triggers_insert]
  templates := rfl
  diagnostics := spread.diagnostics_eq

/-- Boards that are the same but for positions pass the check of a load together. -/
theorem SameButPlaces.checked {board other : Board} (same : SameButPlaces board other)
    (strict : Bool) :
    (∃ fault twin, Board.checked strict board = .error fault ∧
      Board.checked strict other = .error twin ∧ fault.unplaced = twin.unplaced) ∨
    Board.checked strict board = .ok board ∧ Board.checked strict other = .ok other := by
  have faults := same.diagnostics
  unfold Board.checked
  cases strict with
  | false => exact .inr ⟨rfl, rfl⟩
  | true =>
    generalize board.diagnostics = found, other.diagnostics = further at faults
    cases found with
    | nil =>
      rw [List.map_eq_nil_iff.1 faults.symm]
      exact .inr ⟨rfl, rfl⟩
    | cons fault rest =>
      cases further with
      | nil => cases faults
      | cons twin others => exact .inl ⟨fault, twin, rfl, rfl, (List.cons_eq_cons.1 faults).1⟩

/-- **Fanning out is shorthand.** Take a document of declarations and replace an element of a
category array, or an element of the `states` of a declaration at any depth below one, by the
declarations that it fans out to, each of which stands for itself. The document loads as before:
to a board with the same tables, triggers and templates, and with the same diagnostics but for
the positions of the elements, or to the same fault but for its position; and where the one load
goes on without end, so does the other. -/
theorem ofJson_spread (raw : isCompiled root = false)
    (given : Keyed.get? root category.key = some (.arr items))
    (spread : Spread chart items others) (strict : Bool) :
    (∃ board other, ofJson chart strict (.obj root) = .ok board ∧
      ofJson chart strict (.obj (Keyed.insert category.key (.arr others) root)) = .ok other ∧
      SameButPlaces board other) ∨
    (∃ fault twin, ofJson chart strict (.obj root) = .error (.failed fault) ∧
      ofJson chart strict (.obj (Keyed.insert category.key (.arr others) root)) =
        .error (.failed twin) ∧
      fault.unplaced = twin.unplaced) ∨
    ofJson chart strict (.obj root) = .error .endless ∧
      ofJson chart strict (.obj (Keyed.insert category.key (.arr others) root)) =
        .error .endless := by
  rw [ofJson_of_raw raw, ofJson_insert raw]
  cases Templates.ofJson (Keyed.get? root "templates") with
  | error fault => exact .inr (.inl ⟨fault, fault, rfl, rfl, rfl⟩)
  | ok templates =>
    rw [Result.mapError_ok_bind, Result.mapError_ok_bind]
    have spreadIn : SpreadIn chart root category items others := ⟨given, spread⟩
    -- the work on the elements of both documents is the same, so it ends in both or in neither
    have together : ends chart templates root =
        ends chart templates (Keyed.insert category.key (.arr others) root) := spreadIn.ends_eq
    have same : SameButPlaces (board chart templates root)
        (board chart templates (Keyed.insert category.key (.arr others) root)) :=
      sameButPlaces_of_spread spreadIn
    cases finished : ends chart templates root with
    | false =>
      rw [finished] at together
      exact .inr (.inr ⟨withTemplates_of_endless finished strict,
        withTemplates_of_endless together.symm strict⟩)
    | true =>
      rw [finished] at together
      rw [withTemplates_of_ends finished, withTemplates_of_ends together.symm]
      rcases same.checked strict with ⟨fault, twin, failed, again, agree⟩ | ⟨passed, again⟩
      · rw [failed, again]
        exact .inr (.inl ⟨fault, twin, rfl, rfl, agree⟩)
      · rw [passed, again]
        exact .inl ⟨_, _, rfl, rfl, same⟩

/-! Two levels down in a text, a declaration with an array of times is spread. -/

def shorthand : Node := [("text", .str "on"), ("time", .arr [.int 1, .int 3])]

def longhand : List Node :=
  [[("text", .str "on"), ("time", .int 1)], [("text", .str "on"), ("time", .int 3)]]

def outerState : Node :=
  [("add_time", .arr [.int 2, .int 4]), ("states", .arr [.obj shorthand, .obj []])]

def shorthandText : Node := [("states", .arr [.obj outerState]), ("time", .arr [.int 0, .int 8])]

def shorthandRoot : Node := [("texts", .arr [.int 5, .obj shorthandText])]

theorem ofJson_spread_nested :
    isCompiled shorthandRoot = false ∧
    ∃ others, Spread Chart.empty [.int 5, .obj shorthandText] others ∧
      ∃ board other, ofJson Chart.empty false (.obj shorthandRoot) = .ok board ∧
        ofJson Chart.empty false (.obj (Keyed.insert "texts" (.arr others) shorthandRoot)) =
          .ok other ∧
        board.objectCount = 2 ∧ places board.diagnostics = [("E1003", some 0)] ∧
        SameButPlaces board other := by
  have raw : isCompiled shorthandRoot = false := by decide
  have fanned : fanOut Chart.empty shorthand = .ok longhand :=
    Result.eq_ok_of_toOption (by decide)
  have alone : ∀ variant ∈ longhand, (fanOut Chart.empty variant).toOption = some [variant] := by
    decide
  have inner : Spread Chart.empty [.obj shorthand, .obj []] (longhand.map Json.obj ++ [.obj []]) :=
    .here [] [.obj []] fanned fun variant member => Result.eq_ok_of_toOption (alone variant member)
  have outer : Spread Chart.empty [.obj outerState] _ := .deeper [] [] rfl inner
  have spread : Spread Chart.empty [.int 5, .obj shorthandText] _ :=
    .deeper [.int 5] [] rfl outer
  have given : Keyed.get? shorthandRoot Category.text.key =
      some (.arr [.int 5, .obj shorthandText]) := rfl
  refine ⟨raw, _, spread, ?_⟩
  have computed : (ofJson Chart.empty false (.obj shorthandRoot)).toOption.map (fun board =>
      (board.objectCount, places board.diagnostics)) = some (2, [("E1003", some 0)]) := by
    decide +kernel
  obtain ⟨loaded, found, same⟩ := Option.map_eq_some_iff.1 computed
  obtain ⟨count, located⟩ := Prod.mk.inj same
  rcases ofJson_spread raw given spread false with ⟨board, other, given, again, agree⟩ |
    ⟨fault, twin, failed, _⟩ | ⟨endless, _⟩
  · rw [given] at found
    cases found
    exact ⟨_, other, given, again, count, located, agree⟩
  · rw [failed] at found
    cases found
  · rw [endless] at found
    cases found

end Board
end Storyboard
