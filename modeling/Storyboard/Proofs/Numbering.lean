import Storyboard.Board.Reading
import Storyboard.Proofs.Collecting
import Storyboard.Proofs.Result

/-!
# Outcomes of a document

The elements of a category array stand for variants, and each variant has one outcome. The only
thing that passes from one variant to the next is the counter of generated ids, and its value at a
variant is the number of variants in front of it, in the whole document, that take a number. So
the outcomes of a document can be written down without a running state.
-/
namespace Storyboard

namespace Declarations

/-- One of the declarations that an array element stands for, or the fault in place of them, with
the position of the element. -/
structure Variant where
  index : Nat
  node : Except Fault Node

/-- What an array element stands for. -/
def variantsOf (chart : Chart) : Json × Nat → List Variant
  | (.obj node, index) =>
    match fanOut chart node with
    | .error fault => [⟨index, .error fault⟩]
    | .ok nodes => nodes.map fun node => ⟨index, .ok node⟩
  | (_, index) => [⟨index, .error (.of .declarationNotObject)⟩]

/-- What the elements of an array stand for, in order. -/
def variants (chart : Chart) (items : List Json) : List Variant :=
  items.zipIdx.flatMap (variantsOf chart)

section

variable (chart : Chart) (templates : Templates) (category : Category)

/-- A variant with its states, if they can be built. -/
def Variant.prepared (variant : Variant) : Except (Stop Fault) (Prepared category) :=
  variant.node.mapError .failed >>= Prepared.ofNode category chart templates

/-- Whether the work on a variant comes to an end. -/
def Variant.ends (variant : Variant) : Bool :=
  match variant.prepared chart templates category with
  | .error .endless => false
  | _ => true

/-- Whether a variant takes a number: its states can be built and it has no id. -/
def Variant.isNumbered (variant : Variant) : Bool :=
  (variant.prepared chart templates category).toOption.any fun prepared => prepared.id.isNone

/-- How many numbers some variants take. -/
def numbers (found : List Variant) : Nat :=
  found.countP (Variant.isNumbered chart templates category)

/-- The outcome of a variant at a value of the counter. -/
def Variant.outcome (counter : Nat) (variant : Variant) : Outcome category :=
  ⟨variant.index, variant.node.mapError .failed >>= fun node =>
    (object chart templates category node counter).1⟩

/-- The outcomes of variants from a value of the counter on. -/
def outcomesFrom (counter : Nat) (found : List Variant) : List (Outcome category) :=
  (withFront found).map fun (front, variant) =>
    variant.outcome chart templates category (counter + numbers chart templates category front)

end

variable {chart : Chart} {templates : Templates} {category : Category}

/-- What an element stands for: the fault of its fan-out, one of its declarations, or the fault of
an element that is none. -/
theorem cases_of_mem_variantsOf {item : Json} {index : Nat} {variant : Variant}
    (member : variant ∈ variantsOf chart (item, index)) :
    (∃ node fault, fanOut chart node = .error fault ∧ variant = ⟨index, .error fault⟩) ∨
    (∃ node, variant = ⟨index, .ok node⟩) ∨
    variant = ⟨index, .error (.of .declarationNotObject)⟩ := by
  cases item with
  | obj node =>
    simp only [variantsOf] at member
    cases fanned : fanOut chart node with
    | error fault =>
      rw [fanned] at member
      exact .inl ⟨node, fault, fanned, List.mem_singleton.1 member⟩
    | ok nodes =>
      rw [fanned] at member
      obtain ⟨made, _, same⟩ := List.mem_map.1 member
      exact .inr (.inl ⟨made, same.symm⟩)
  | _ => exact .inr (.inr (List.mem_singleton.1 member))

theorem numbers_append (found later : List Variant) :
    numbers chart templates category (found ++ later) =
      numbers chart templates category found + numbers chart templates category later :=
  List.countP_append

theorem outcomesFrom_append (counter : Nat) (found later : List Variant) :
    outcomesFrom chart templates category counter (found ++ later) =
      outcomesFrom chart templates category counter found ++
        outcomesFrom chart templates category
          (counter + numbers chart templates category found) later := by
  simp [outcomesFrom, withFront_append, numbers_append, Nat.add_assoc]

theorem outcomesFrom_cons (counter : Nat) (variant : Variant) (rest : List Variant) :
    outcomesFrom chart templates category counter (variant :: rest) =
      variant.outcome chart templates category counter ::
        outcomesFrom chart templates category
          (counter + numbers chart templates category [variant]) rest :=
  outcomesFrom_append counter [variant] rest

theorem numbers_singleton (variant : Variant) :
    numbers chart templates category [variant] =
      if variant.isNumbered chart templates category then 1 else 0 :=
  List.countP_singleton

theorem numbers_cons (variant : Variant) (rest : List Variant) :
    numbers chart templates category (variant :: rest) =
      numbers chart templates category [variant] + numbers chart templates category rest :=
  numbers_append [variant] rest

theorem Variant.isNumbered_of_ok {variant : Variant} {prepared : Prepared category}
    (made : variant.prepared chart templates category = .ok prepared) :
    variant.isNumbered chart templates category = prepared.id.isNone := by
  rw [isNumbered, made]
  rfl

theorem Variant.isNumbered_of_error {variant : Variant} {stop : Stop Fault}
    (failed : variant.prepared chart templates category = .error stop) :
    variant.isNumbered chart templates category = false := by
  rw [isNumbered, failed]
  rfl

/-! ## The counter -/

theorem finish_counter (prepared : Prepared category) (counter : Nat) :
    (prepared.finish counter).2 = counter + if prepared.id.isNone then 1 else 0 := by
  unfold Prepared.finish
  cases prepared.id with
  | none => rfl
  | some text => rfl

theorem threaded_cons {α β σ : Type} (step : α → σ → β × σ) (x : α) (rest : List α) (s : σ) :
    threaded step (x :: rest) s =
      ((step x s).1 :: (threaded step rest (step x s).2).1,
        (threaded step rest (step x s).2).2) := rfl

/-- An object is a variant with its states whose ids are filled in. -/
theorem Variant.result_outcome (variant : Variant) (counter : Nat) :
    (variant.outcome chart templates category counter).result =
      variant.prepared chart templates category >>= fun prepared =>
        (prepared.finish counter).1.mapError .failed := by
  obtain ⟨index, node⟩ := variant
  cases node with
  | error fault => rfl
  | ok node =>
    simp only [outcome, prepared, object, Result.mapError_ok_bind]
    split
    · next failed => rw [failed]; rfl
    · next made => rw [made]; rfl

/-- Filling in ids always comes to an end, so the work on a variant does if its states are built or
found to be at fault. -/
theorem Variant.ends_outcome (variant : Variant) (counter : Nat) :
    (variant.outcome chart templates category counter).ends =
      variant.ends chart templates category := by
  rw [Outcome.ends, result_outcome, ends]
  cases variant.prepared chart templates category with
  | error stop => cases stop <;> rfl
  | ok prepared =>
    rw [Result.ok_bind]
    cases (prepared.finish counter).1 <;> rfl

theorem ends_outcomesFrom (counter : Nat) (found : List Variant) :
    (outcomesFrom chart templates category counter found).all Outcome.ends =
      found.all (Variant.ends chart templates category) := by
  induction found generalizing counter with
  | nil => rfl
  | cons variant rest ih =>
    rw [outcomesFrom_cons, List.all_cons, List.all_cons, Variant.ends_outcome, ih]

theorem object_counter (node : Node) (counter index : Nat) :
    (object chart templates category node counter).2 =
      counter + numbers chart templates category [⟨index, .ok node⟩] := by
  rw [object, numbers_singleton]
  split
  · next stop failed =>
    have unmade : Variant.prepared chart templates category ⟨index, .ok node⟩ = .error stop :=
      failed
    rw [Variant.isNumbered_of_error unmade]
    rfl
  · next prepared made =>
    have ready : Variant.prepared chart templates category ⟨index, .ok node⟩ = .ok prepared :=
      made
    rw [Variant.isNumbered_of_ok ready]
    exact finish_counter prepared counter

/-- The variants of one element are loaded one after another, all under its position. -/
theorem threaded_objects (nodes : List Node) (counter index : Nat) :
    (threaded (object chart templates category) nodes counter).1.map
        (fun result => (⟨index, result⟩ : Outcome category)) =
      outcomesFrom chart templates category counter (nodes.map fun node => ⟨index, .ok node⟩) ∧
    (threaded (object chart templates category) nodes counter).2 =
      counter + numbers chart templates category (nodes.map fun node => ⟨index, .ok node⟩) := by
  induction nodes generalizing counter with
  | nil => exact ⟨rfl, rfl⟩
  | cons node rest ih =>
    have moved := @object_counter chart templates category node counter index
    -- the others start from the counter that the first variant leaves
    obtain ⟨others, final⟩ := ih (object chart templates category node counter).2
    rw [threaded_cons, List.map_cons, List.map_cons, outcomesFrom_cons, numbers_cons _ (rest.map _),
      others, final, moved, Nat.add_assoc]
    exact ⟨rfl, rfl⟩

theorem ofElement_eq (element : Json × Nat) (counter : Nat) :
    ofElement chart templates category element counter =
      (outcomesFrom chart templates category counter (variantsOf chart element),
        counter + numbers chart templates category (variantsOf chart element)) := by
  obtain ⟨item, index⟩ := element
  cases item with
  | obj node =>
    cases fanned : fanOut chart node with
    | error fault =>
      simp only [ofElement, variantsOf, fanned]
      rfl
    | ok nodes =>
      obtain ⟨found, final⟩ := @threaded_objects chart templates category nodes counter index
      simp only [ofElement, variantsOf, fanned, ← found, ← final]
  | _ => rfl

/-- The elements of an array are loaded one after another. -/
theorem threaded_elements (elements : List (Json × Nat)) (counter : Nat) :
    (threaded (ofElement chart templates category) elements counter).1.flatten =
      outcomesFrom chart templates category counter (elements.flatMap (variantsOf chart)) ∧
    (threaded (ofElement chart templates category) elements counter).2 =
      counter + numbers chart templates category (elements.flatMap (variantsOf chart)) := by
  induction elements generalizing counter with
  | nil => exact ⟨rfl, rfl⟩
  | cons element rest ih =>
    obtain ⟨others, final⟩ := ih (ofElement chart templates category element counter).2
    rw [threaded_cons, List.flatten_cons, others, final, ofElement_eq, List.flatMap_cons,
      outcomesFrom_append, numbers_append, Nat.add_assoc]
    exact ⟨rfl, rfl⟩

theorem outcomes_eq (items : List Json) (counter : Nat) :
    outcomes chart templates category items counter =
      (outcomesFrom chart templates category counter (variants chart items),
        counter + numbers chart templates category (variants chart items)) := by
  obtain ⟨found, final⟩ := @threaded_elements chart templates category items.zipIdx counter
  exact Prod.ext found final

/-! ## Documents -/

/-- The elements of a category in a document. -/
def elements (root : Node) (category : Category) : List Json :=
  match root.given? category.key with
  | some (.arr items) => items
  | _ => []

section

variable (chart : Chart) (templates : Templates) (root : Node) (category : Category)

/-- What the elements of a category in a document stand for. -/
def variantsIn : List Variant := variants chart (elements root category)

/-- Whether the work on every element of the document comes to an end. -/
def ends : Bool :=
  Category.all.all fun category =>
    (variantsIn chart root category).all (Variant.ends chart templates category)

/-- The value of the counter in front of a category: the numbers that the categories in front of it
take. -/
def start : Nat :=
  (Category.all.takeWhile (· ≠ category)).foldr
    (fun earlier total =>
      numbers chart templates earlier (variantsIn chart root earlier) + total) 0

/-- The outcomes of a category in a document. -/
def outcomesIn : List (Outcome category) :=
  outcomesFrom chart templates category (start chart templates root category)
    (variantsIn chart root category)

/-- The diagnostics of a category in a document. -/
def diagnosticsIn : List Fault :=
  match root.given? category.key with
  | none | some (.arr _) => Outcome.diagnostics (outcomesIn chart templates root category)
  | some _ => [{ Fault.of (.notArray category.key) with category := some category }]

end

variable {root : Node}

theorem elements_of_array {items : List Json}
    (given : root.given? category.key = some (.arr items)) : elements root category = items := by
  rw [elements, given]

theorem elements_of_none (absent : root.given? category.key = none) :
    elements root category = [] := by
  rw [elements, absent]

theorem elements_of_not_array {value : Json} (given : root.given? category.key = some value)
    (notArray : ∀ items, value = .arr items → False) : elements root category = [] := by
  rw [elements, given]
  split
  · next items same => exact (notArray items (Option.some.inj same)).elim
  · rfl

theorem ofCategory_counter (counter : Nat) :
    (ofCategory chart templates root category counter).2 =
      counter + numbers chart templates category (variantsIn chart root category) := by
  unfold ofCategory variantsIn
  split
  · next absent => rw [elements_of_none absent]; rfl
  · next items given => rw [elements_of_array given, outcomes_eq]
  · next value notArray given => rw [elements_of_not_array given notArray]; rfl

theorem table_ofCategory (counter : Nat) :
    (ofCategory chart templates root category counter).1.table =
      (CategoryLoad.ofOutcomes (outcomesFrom chart templates category counter
        (variantsIn chart root category))).table := by
  unfold ofCategory variantsIn
  split
  · next absent => rw [elements_of_none absent]; rfl
  · next items given => rw [elements_of_array given, outcomes_eq]
  · next value notArray given => rw [elements_of_not_array given notArray]; rfl

theorem diagnostics_ofCategory :
    (ofCategory chart templates root category (start chart templates root category)).1.diagnostics =
      diagnosticsIn chart templates root category := by
  simp only [ofCategory, diagnosticsIn, outcomesIn, variantsIn]
  cases given : root.given? category.key with
  | none => rw [elements_of_none given]; rfl
  | some value =>
    cases value with
    | arr items =>
      simp only [elements_of_array given, outcomes_eq, CategoryLoad.diagnostics_ofOutcomes]
    | _ => rfl

theorem ends_ofCategory (counter : Nat) :
    (ofCategory chart templates root category counter).1.ends =
      (variantsIn chart root category).all (Variant.ends chart templates category) := by
  unfold ofCategory variantsIn
  split
  · next absent => rw [elements_of_none absent]; rfl
  · next items given =>
    rw [elements_of_array given, outcomes_eq]
    exact ends_outcomesFrom counter _
  · next value notArray given => rw [elements_of_not_array given notArray]; rfl

end Declarations

namespace PerCategory

variable {α : Category → Type}

/-- Where each step moves the value on by a number of its own, a step starts from the sum of the
numbers in front of it. -/
theorem get_scan {step : (category : Category) → Nat → α category × Nat} {taken : Category → Nat}
    (moves : ∀ category s, (step category s).2 = s + taken category) (category : Category) :
    (scan step 0).1.get category =
      (step category ((Category.all.takeWhile (· ≠ category)).foldr
        (fun earlier total => taken earlier + total) 0)).1 := by
  cases category <;>
    simp [scan, get, Category.all, List.takeWhile, moves, Nat.add_assoc]

end PerCategory

namespace Declarations

variable {chart : Chart} {templates : Templates} {root : Node} {category : Category}

/-- The board that a document of declarations makes with its templates. -/
def board (chart : Chart) (templates : Templates) (root : Node) : Board where
  tables := .ofFn fun category =>
    (CategoryLoad.ofOutcomes (outcomesIn chart templates root category)).table
  triggers := (triggers root).1
  templates := templates
  diagnostics := Category.all.flatMap (diagnosticsIn chart templates root) ++ (triggers root).2

theorem get?_tables_board (id : String) :
    ((board chart templates root).tables.get category).get? id =
      Outcome.first? (outcomesIn chart templates root category) id := by
  rw [board, PerCategory.get_ofFn, CategoryLoad.get?_table_ofOutcomes]

theorem size_tables_board :
    ((board chart templates root).tables.get category).size +
        (Outcome.diagnostics (outcomesIn chart templates root category)).length =
      (outcomesIn chart templates root category).countP Outcome.ends := by
  rw [board, PerCategory.get_ofFn, ← CategoryLoad.diagnostics_ofOutcomes]
  exact CategoryLoad.size_ofOutcomes _

/-- Where the work on every element comes to an end, an object or a diagnostic stands for each
outcome. -/
theorem size_tables_board_of_ends (finished : ends chart templates root = true) :
    ((board chart templates root).tables.get category).size +
        (Outcome.diagnostics (outcomesIn chart templates root category)).length =
      (outcomesIn chart templates root category).length := by
  have listed : category ∈ Category.all := by cases category <;> decide
  have all := List.all_eq_true.1 finished category listed
  rw [← ends_outcomesFrom (start chart templates root category), ← outcomesIn] at all
  rw [size_tables_board, List.countP_eq_length.2 (List.all_eq_true.1 all)]

theorem table_board_of_not_array (bare : ∀ items, root.given? category.key ≠ some (.arr items)) :
    (board chart templates root).tables.get category = Table.empty := by
  have empty : elements root category = [] := by
    cases given : root.given? category.key with
    | none => exact elements_of_none given
    | some value => exact elements_of_not_array given fun items same => bare items (same ▸ given)
  rw [board, PerCategory.get_ofFn, outcomesIn, variantsIn, empty]
  rfl

end Declarations

namespace Board

open Declarations (board ends)

variable {chart : Chart} {root : Node}

/-- Each category starts from the counter that the categories in front of it leave. -/
theorem get_scan_ofCategory (templates : Templates) (category : Category) :
    (PerCategory.scan (Declarations.ofCategory chart templates root) 0).1.get category =
      (Declarations.ofCategory chart templates root category
        (Declarations.start chart templates root category)).1 :=
  PerCategory.get_scan
    (fun earlier counter => @Declarations.ofCategory_counter chart templates earlier root counter)
    category

theorem ofLoads_scan (templates : Templates) :
    ofLoads (PerCategory.scan (Declarations.ofCategory chart templates root) 0).1 =
      { empty with
        tables := (board chart templates root).tables
        diagnostics :=
          Category.all.flatMap (Declarations.diagnosticsIn chart templates root) } := by
  simp only [ofLoads, PerCategory.toList, get_scan_ofCategory, Declarations.table_ofCategory,
    Declarations.diagnostics_ofCategory, ← List.flatMap_def]
  rfl

theorem ends_scan (templates : Templates) :
    ((PerCategory.scan (Declarations.ofCategory chart templates root) 0).1.toList
      fun _ load => load.ends).all id = ends chart templates root := by
  simp only [PerCategory.toList, get_scan_ofCategory, Declarations.ends_ofCategory, List.all_map,
    Function.id_comp]
  rfl

theorem ofDeclarations_eq :
    ofDeclarations chart root =
      (Templates.ofJson (Keyed.get? root "templates")).mapError .failed >>= fun templates =>
        if ends chart templates root then .ok (board chart templates root)
        else .error .endless := by
  rw [ofDeclarations]
  cases Templates.ofJson (Keyed.get? root "templates") with
  | error fault => rfl
  | ok templates =>
    simp only [Result.mapError_ok_bind, ends_scan, ofLoads_scan]
    cases ends chart templates root with
    | false => rfl
    | true => rfl

/-- What the load of a document of declarations comes to with its templates. -/
def withTemplates (chart : Chart) (strict : Bool) (root : Node) (templates : Templates) :
    Except (Stop Fault) Board :=
  if ends chart templates root then
    (checked strict (board chart templates root)).mapError .failed
  else .error .endless

/-- The load of a document of declarations is stopped by its templates, or by work on a declaration
that does not end. -/
theorem ofJson_of_raw (raw : isCompiled root = false) (strict : Bool) :
    ofJson chart strict (.obj root) =
      (Templates.ofJson (Keyed.get? root "templates")).mapError .failed >>=
        withTemplates chart strict root := by
  simp only [ofJson, raw, Bool.false_eq_true, if_false, ofDeclarations_eq]
  cases Templates.ofJson (Keyed.get? root "templates") with
  | error fault => rfl
  | ok templates =>
    simp only [Result.mapError_ok_bind, withTemplates]
    cases ends chart templates root with
    | false => rfl
    | true => rfl

theorem withTemplates_of_ends {templates : Templates} (finished : ends chart templates root = true)
    (strict : Bool) :
    withTemplates chart strict root templates =
      (checked strict (board chart templates root)).mapError .failed :=
  if_pos finished

theorem withTemplates_of_endless {templates : Templates}
    (endless : ends chart templates root = false) (strict : Bool) :
    withTemplates chart strict root templates = .error .endless := by
  rw [withTemplates, endless]
  rfl

theorem checked_false (board : Board) : checked false board = .ok board := rfl

/-- A board that passes the check of a strict load is not changed by it. -/
theorem eq_of_checked {strict : Bool} {board result : Board}
    (passed : checked strict board = .ok result) : board = result := by
  unfold checked at passed
  split at passed <;> cases passed
  rfl

/-- A document of declarations that loads makes the board of its templates, and the work on each of
its declarations ends. -/
theorem exists_of_ofJson (raw : isCompiled root = false) {strict : Bool} {result : Board}
    (loaded : ofJson chart strict (.obj root) = .ok result) :
    Templates.ofJson (Keyed.get? root "templates") = .ok result.templates ∧
      ends chart result.templates root = true ∧ result = board chart result.templates root := by
  rw [ofJson_of_raw raw] at loaded
  obtain ⟨templates, read, passed⟩ := Result.mapError_bind_eq_ok_iff.1 loaded
  cases finished : ends chart templates root with
  | false =>
    rw [withTemplates_of_endless finished] at passed
    cases passed
  | true =>
    rw [withTemplates_of_ends finished, Result.mapError_eq_ok_iff] at passed
    have same := eq_of_checked passed
    subst same
    exact ⟨read, finished, rfl⟩

/-- A document of declarations that loads makes the board of its templates. -/
theorem templates_of_ofJson (raw : isCompiled root = false) {strict : Bool} {result : Board}
    (loaded : ofJson chart strict (.obj root) = .ok result) :
    Templates.ofJson (Keyed.get? root "templates") = .ok result.templates ∧
      result = board chart result.templates root := by
  obtain ⟨read, _, same⟩ := exists_of_ofJson raw loaded
  exact ⟨read, same⟩

end Board
end Storyboard
