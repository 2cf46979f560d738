import Std.Data.String.ToNat
import Storyboard.Proofs.Accounting
import Storyboard.Proofs.LoadedObjects

/-!
# Generated ids

A declaration without an id gets one that is made of its category and of the number that it takes.
No two such ids of a document are the same. But nothing keeps a declaration from giving such a text
as its own id, in front of the declaration that it is generated for or behind it, and then the
first of the two is kept. This module says exactly when that happens.
-/
namespace Storyboard

open Result (FailsOnlyWith)

variable {category : Category} {chart : Chart} {templates : Templates}

/-! ## Faults of one declaration

A taken id is met where objects are put together and nowhere in a declaration itself. -/

theorem Placeholder.fillIn_fails_own (binding : Binding) (own : Option NoteId) (text : String) :
    FailsOnlyWith Fault.Own (fillIn binding own text) := by
  intro fault failed
  obtain ⟨_, _, rfl⟩ := eq_of_fillIn_error failed
  exact nofun

theorem Timeline.build_fails_own (binding : Binding) (root : Node) :
    FailsOnlyWith (Stop.OnlyFor Fault.Own) (build category chart templates binding root) := by
  intro stop failed
  rcases cases_of_build_error failed with inside | ⟨reached, node, now⟩
  · exact (Outline.bound_of_nested inside).weaken fun _ => Fault.Bound.own
  · exact passNode_fails_own reached node stop now

namespace Prepared

theorem ofNode_fails_own (node : Node) :
    FailsOnlyWith (Stop.OnlyFor Fault.Own) (ofNode category chart templates node) := by
  refine .bind ((templates.complete_fails _).weaken fun _ => Fault.Bound.own).lift
    fun merged => ?_
  refine .bind ((identify_fails merged).weaken fun _ => Fault.Bound.own).lift fun names => ?_
  exact .bind (Timeline.build_fails_own none merged) fun _ => .ok _

theorem filled?_fails_own (prepared : Prepared category) (given : Option String) :
    FailsOnlyWith Fault.Own (prepared.filled? given) := by
  cases given with
  | none => exact .ok none
  | some text => exact .map _ (Placeholder.fillIn_fails_own _ _ text)

theorem finish_fails_own (prepared : Prepared category) (counter : Nat) :
    FailsOnlyWith Fault.Own (prepared.finish counter).1 := by
  unfold finish
  cases given : prepared.id with
  | none =>
    refine .bind (.ok _) fun id => ?_
    exact .bind (prepared.filled?_fails_own _) fun _ =>
      .bind (prepared.filled?_fails_own _) fun _ => .ok _
  | some text =>
    refine .bind (Placeholder.fillIn_fails_own _ _ text) fun id => ?_
    exact .bind (prepared.filled?_fails_own _) fun _ =>
      .bind (prepared.filled?_fails_own _) fun _ => .ok _

end Prepared

namespace Declarations

theorem node_fails_own {items : List Json} {variant : Variant}
    (member : variant ∈ variants chart items) : FailsOnlyWith Fault.Own variant.node := by
  obtain ⟨element, _, among⟩ := List.mem_flatMap.1 member
  rcases cases_of_mem_variantsOf among with ⟨node, fault, fanned, rfl⟩ | ⟨node, rfl⟩ | rfl
  · exact .error (fanOut_fails chart node fault fanned).bound.own
  · exact .ok node
  · refine .error fun id taken => ?_
    cases taken

theorem result_fails_own {items : List Json} {counter : Nat} {outcome : Outcome category}
    (member : outcome ∈
      outcomesFrom chart templates category counter (variants chart items)) :
    FailsOnlyWith (Stop.OnlyFor Fault.Own) outcome.result := by
  obtain ⟨⟨front, variant⟩, inside, rfl⟩ := List.mem_map.1 member
  rw [Variant.result_outcome]
  refine .bind (.bind (node_fails_own (mem_of_mem_withFront inside)).lift fun node => ?_)
    fun prepared => ?_
  · exact Prepared.ofNode_fails_own node
  · exact (prepared.finish_fails_own _).lift

end Declarations

/-! ## Redefinitions -/

namespace Outcome

/-- How many objects among outcomes have an id. -/
def occurrences (outcomes : List (Outcome category)) (id : String) : Nat :=
  (objects outcomes).countP fun object => object.id = id

variable {front outcomes : List (Outcome category)} {id : String}

theorem occurrences_append (front back : List (Outcome category)) (id : String) :
    occurrences (front ++ back) id = occurrences front id + occurrences back id := by
  rw [occurrences, objects, List.filterMap_append, List.countP_append]
  rfl

theorem occurrences_cons (outcome : Outcome category) (rest : List (Outcome category))
    (id : String) :
    occurrences (outcome :: rest) id = occurrences [outcome] id + occurrences rest id :=
  occurrences_append [outcome] rest id

theorem occurrences_error (index : Nat) (stop : Stop Fault) (id : String) :
    occurrences [(⟨index, .error stop⟩ : Outcome category)] id = 0 := rfl

theorem occurrences_ok (index : Nat) (object : StageObject category) (id : String) :
    occurrences [⟨index, .ok object⟩] id = if object.id = id then 1 else 0 := by
  rw [occurrences]
  exact (List.countP_singleton ..).trans (by simp)

theorem first?_eq_none_iff : first? front id = none ↔ occurrences front id = 0 := by
  rw [first?, List.find?_eq_none, occurrences, List.countP_eq_zero]

/-- An id is reported as taken behind other outcomes if one more object has it. -/
theorem redefined_behind_iff (front : List (Outcome category)) (id : String)
    (own : ∀ outcome ∈ outcomes, FailsOnlyWith (Stop.OnlyFor Fault.Own) outcome.result) :
    (∃ fault ∈ diagnosticsBehind front outcomes, fault.cause = .redefinition id) ↔
      0 < occurrences outcomes id ∧ 2 ≤ occurrences front id + occurrences outcomes id := by
  induction outcomes generalizing front with
  | nil => simp [diagnosticsBehind, withFront, occurrences, objects]
  | cons outcome rest ih =>
    have later := ih (front ++ [outcome]) fun outcome member =>
      own outcome (List.mem_cons_of_mem _ member)
    rw [occurrences_append] at later
    rw [diagnosticsBehind_cons, occurrences_cons]
    simp only [List.mem_append, Option.mem_toList, or_and_right, exists_or, later]
    obtain ⟨index, result⟩ := outcome
    cases result with
    | error stop =>
      rw [occurrences_error]
      cases stop with
      | endless =>
        simp only [diagnostic?, reduceCtorEq, false_and, exists_false, false_or]
        omega
      | failed fault =>
        -- a fault of the declaration itself is no redefinition
        have other : fault.Own := own _ (List.mem_cons_self ..) (.failed fault) rfl
        simp only [diagnostic?, Option.some.injEq, exists_eq_left']
        have moved : (fault.located category index).cause = fault.cause := rfl
        rw [moved]
        simp only [other id, false_or]
        omega
    | ok object =>
      rw [occurrences_ok]
      cases taken : first? front object.id with
      | none =>
        -- the first object of an id gives no diagnostic
        have free := first?_eq_none_iff.1 taken
        simp only [diagnostic?, taken, Option.map_none, reduceCtorEq, false_and, exists_false,
          false_or]
        split
        · next same =>
          subst same
          omega
        · omega
      | some earlier =>
        have before : occurrences front object.id ≠ 0 := by
          rw [Ne, ← first?_eq_none_iff, taken]
          exact Option.some_ne_none earlier
        simp only [diagnostic?, taken, Option.map_some, Option.some.injEq, exists_eq_left']
        have named : (redefinition category index object.id).cause = .redefinition object.id := rfl
        rw [named, Fault.Cause.redefinition.injEq]
        split
        · next same =>
          subst same
          simp only [true_or, true_iff]
          omega
        · next differs =>
          simp only [differs, false_or]
          omega

/-- An id is reported as taken if two objects have it. -/
theorem redefined_iff
    (own : ∀ outcome ∈ outcomes, FailsOnlyWith (Stop.OnlyFor Fault.Own) outcome.result) :
    (∃ fault ∈ diagnostics outcomes, fault.cause = .redefinition id) ↔
      2 ≤ occurrences outcomes id := by
  have counted := redefined_behind_iff [] id own
  rw [diagnostics, counted]
  change _ ∧ 2 ≤ 0 + _ ↔ _
  omega

end Outcome

/-! ## Objects with the way they came by their ids -/

namespace Prepared

variable {other : Category}

theorem head?_key_append (category : Category) (text : List Char) :
    (category.key.toList ++ text).head? = category.key.toList.head? :=
  List.head?_append_of_ne_nil _ (by cases category <;> decide)

/-- No two categories begin with the same letter. -/
theorem eq_of_head?_key (same : category.key.toList.head? = other.key.toList.head?) :
    category = other := by
  revert same
  cases category <;> cases other <;> decide

/-- A generated id tells its category and its number. -/
theorem numberedId_inj {m n : Nat} (same : numberedId category m = numberedId other n) :
    category = other ∧ m = n := by
  have texts := congrArg String.toList same
  simp only [toList_numberedId, List.append_assoc] at texts
  have tails := List.append_cancel_left texts
  have heads := congrArg List.head? tails
  rw [head?_key_append, head?_key_append] at heads
  cases eq_of_head?_key heads
  have digits := List.append_cancel_left (List.append_cancel_left tails)
  exact ⟨rfl, Nat.repr_injective (String.toList_injective digits)⟩

end Prepared

/-- An object that a declaration loads to, and whether its id is a generated one. -/
structure Arrival (category : Category) where
  generated : Bool
  object : StageObject category

namespace Declarations

section

variable (chart : Chart) (templates : Templates) (category : Category)

/-- What a variant loads to at a value of the counter. -/
def Variant.arrival? (counter : Nat) (variant : Variant) : Option (Arrival category) :=
  (variant.outcome chart templates category counter).result.toOption.map fun object =>
    ⟨variant.isNumbered chart templates category, object⟩

/-- What variants load to from a value of the counter on. -/
def arrivalsFrom (counter : Nat) (found : List Variant) : List (Arrival category) :=
  (withFront found).filterMap fun (front, variant) =>
    variant.arrival? chart templates category (counter + numbers chart templates category front)

/-- What the declarations of a category in a document load to. -/
def arrivalsIn (root : Node) : List (Arrival category) :=
  arrivalsFrom chart templates category (start chart templates root category)
    (variantsIn chart root category)

end

theorem objects_arrivalsFrom (counter : Nat) (found : List Variant) :
    (arrivalsFrom chart templates category counter found).map Arrival.object =
      Outcome.objects (outcomesFrom chart templates category counter found) := by
  rw [arrivalsFrom, outcomesFrom, Outcome.objects, List.map_filterMap, List.filterMap_map]
  refine List.filterMap_congr fun placed _ => ?_
  simp only [Variant.arrival?, Option.map_map, Function.comp_def]
  exact Option.map_id' ..

/-- A generated id is made of the next number. -/
theorem Variant.id_of_arrival? {counter : Nat} {variant : Variant} {arrival : Arrival category}
    (arrives : variant.arrival? chart templates category counter = some arrival)
    (generated : arrival.generated = true) :
    variant.isNumbered chart templates category = true ∧
      arrival.object.id = Prepared.numberedId category (counter + 1) := by
  obtain ⟨object, given, rfl⟩ := Option.map_eq_some_iff.1 arrives
  refine ⟨generated, ?_⟩
  have loaded := Result.eq_ok_of_toOption given
  rw [Variant.result_outcome] at loaded
  obtain ⟨prepared, made, done⟩ := Result.bind_eq_ok_iff.1 loaded
  have named := (Prepared.finish_eq_ok (Result.mapError_eq_ok_iff.1 done)).1
  have numbered : prepared.id.isNone = true := by
    rw [← Variant.isNumbered_of_ok made]
    exact generated
  rw [Option.isNone_iff_eq_none.1 numbered] at named
  exact named

theorem exists_number_of_generated {counter : Nat} {found : List Variant}
    {arrival : Arrival category}
    (member : arrival ∈ arrivalsFrom chart templates category counter found)
    (generated : arrival.generated = true) :
    ∃ number, 1 ≤ number ∧ arrival.object.id = Prepared.numberedId category number := by
  obtain ⟨⟨front, variant⟩, _, arrives⟩ := List.mem_filterMap.1 member
  exact ⟨_, Nat.succ_pos _, (Variant.id_of_arrival? arrives generated).2⟩

/-- The generated ids of a category are all different: a variant that takes a number moves the
counter on for all variants behind it. -/
theorem pairwise_arrivalsFrom (counter : Nat) (found : List Variant) :
    (arrivalsFrom chart templates category counter found).Pairwise fun earlier later =>
      earlier.generated = true → later.generated = true →
        earlier.object.id ≠ later.object.id := by
  rw [arrivalsFrom, List.pairwise_filterMap]
  refine pairwise_withFront.imp ?_
  rintro ⟨front, variant⟩ ⟨longer, next⟩ ⟨between, split⟩ earlier first later second madeFirst
    madeSecond same
  obtain ⟨numbered, idFirst⟩ := Variant.id_of_arrival? first madeFirst
  obtain ⟨_, idSecond⟩ := Variant.id_of_arrival? second madeSecond
  rw [idFirst, idSecond] at same
  -- the number in front of the later variant counts the earlier one
  have equal := (Prepared.numberedId_inj same).2
  have moved : numbers chart templates category longer =
      numbers chart templates category front + 1 + numbers chart templates category between := by
    have whole : longer = front ++ [variant] ++ between := split.symm
    rw [whole, numbers_append, numbers_append, numbers_singleton, if_pos numbered]
  omega

theorem occurrences_outcomesFrom (counter : Nat) (found : List Variant) (id : String) :
    Outcome.occurrences (outcomesFrom chart templates category counter found) id =
      (arrivalsFrom chart templates category counter found).countP
        fun arrival => arrival.object.id = id := by
  rw [Outcome.occurrences, ← objects_arrivalsFrom, List.countP_map]
  rfl

variable {root : Node}

/-- A category reports an id as taken if two of its objects have it. -/
theorem redefined_in_category_iff {id : String} :
    (∃ fault ∈ diagnosticsIn chart templates root category, fault.cause = .redefinition id) ↔
      2 ≤ (arrivalsIn chart templates category root).countP
        fun arrival => arrival.object.id = id := by
  have own : ∀ outcome ∈ outcomesIn chart templates root category,
      FailsOnlyWith (Stop.OnlyFor Fault.Own) outcome.result := fun outcome => result_fails_own
  rw [arrivalsIn, ← occurrences_outcomesFrom, ← outcomesIn, ← Outcome.redefined_iff own]
  cases given : root.given? category.key with
  | none => rw [diagnosticsIn, given]
  | some value =>
    cases value with
    | arr items => rw [diagnosticsIn, given]
    | _ =>
      -- nothing is loaded, and the fault in place of the array is another one
      have empty : elements root category = [] :=
        elements_of_not_array given fun items same => by cases same
      rw [diagnosticsIn, outcomesIn, variantsIn, empty, given]
      simp [Outcome.diagnostics, Outcome.diagnosticsBehind, outcomesFrom, variants, withFront,
        Fault.of]

section

variable {counter : Nat} {found : List Variant} {front back : List (Arrival category)}
  {arrival : Arrival category}

/-- Beside a generated id, the same id is not generated again in the category. -/
theorem explicit_of_same_id
    (arrives : arrivalsFrom chart templates category counter found = front ++ arrival :: back)
    (generated : arrival.generated = true) {other : Arrival category}
    (member : other ∈ front ++ back) (same : other.object.id = arrival.object.id) :
    other.generated = false := by
  have distinct := @pairwise_arrivalsFrom category chart templates counter found
  rw [arrives, List.pairwise_append, List.pairwise_cons] at distinct
  obtain ⟨_, ⟨behind, _⟩, across⟩ := distinct
  rw [← Bool.not_eq_true]
  intro made
  rcases List.mem_append.1 member with before | after
  · exact across other before arrival (List.mem_cons_self ..) made generated same
  · exact behind other after generated made same.symm

/-- Beside a generated id, the same id is not generated in another category. -/
theorem explicit_of_same_id_elsewhere {elsewhere : Category} {number : Nat} {others : List Variant}
    (member : arrival ∈ arrivalsFrom chart templates category counter found)
    (generated : arrival.generated = true) (differs : elsewhere ≠ category)
    {other : Arrival elsewhere}
    (inside : other ∈ arrivalsFrom chart templates elsewhere number others)
    (same : other.object.id = arrival.object.id) : other.generated = false := by
  rw [← Bool.not_eq_true]
  intro made
  obtain ⟨_, _, named⟩ := exists_number_of_generated member generated
  obtain ⟨_, _, also⟩ := exists_number_of_generated inside made
  rw [also, named] at same
  exact differs (Prepared.numberedId_inj same).1

/-- The table keeps an object with an id that no object in front of it has. -/
theorem get?_tables_board_of_free
    (arrives : arrivalsIn chart templates category root = front ++ arrival :: back)
    (free : ∀ other ∈ front, other.object.id ≠ arrival.object.id) :
    ((board chart templates root).tables.get category).get? arrival.object.id =
      some arrival.object := by
  have passed : front.find? ((fun object => decide (object.id = arrival.object.id)) ∘
      Arrival.object) = none := by
    rw [List.find?_eq_none]
    intro other inside
    simpa using free other inside
  rw [get?_tables_board, Outcome.first?, outcomesIn, ← objects_arrivalsFrom, ← arrivalsIn, arrives,
    List.find?_map, List.find?_append, passed, Option.none_or, List.find?_cons_of_pos (by simp)]
  rfl

/-- The load reports the id of an object as taken if another object of the category has it. -/
theorem redefined_iff_exists_other
    (arrives : arrivalsIn chart templates category root = front ++ arrival :: back) :
    (∃ fault ∈ diagnosticsIn chart templates root category,
        fault.cause = .redefinition arrival.object.id) ↔
      ∃ other ∈ front ++ back, other.object.id = arrival.object.id := by
  have others : 2 ≤ (front ++ arrival :: back).countP
        (fun other => other.object.id = arrival.object.id) ↔
      0 < (front ++ back).countP fun other => other.object.id = arrival.object.id := by
    rw [List.countP_append, List.countP_cons_of_pos (by simp), List.countP_append]
    omega
  rw [redefined_in_category_iff, arrives, others, List.countP_pos_iff]
  simp only [decide_eq_true_eq]

end
end Declarations

namespace Board

open Declarations

/-- **Generated ids.** A generated id is made of the category of its object and of a number from 1
on, and no other generated id of the document is the same, in any category. So another object with
the same id has it from its declaration. The load reports the id as taken exactly if the category
has such an object; unless one stands in front, the table keeps the object with the generated id. -/
theorem ofJson_generated {strict : Bool} {result : Board} {root : Node}
    (raw : isCompiled root = false)
    (loaded : ofJson chart strict (.obj root) = .ok result)
    {front back : List (Arrival category)} {arrival : Arrival category}
    (arrives : arrivalsIn chart result.templates category root = front ++ arrival :: back)
    (generated : arrival.generated = true) :
    (∃ number, 1 ≤ number ∧ arrival.object.id = Prepared.numberedId category number) ∧
    (∀ other ∈ front ++ back, other.object.id = arrival.object.id → other.generated = false) ∧
    (∀ elsewhere, elsewhere ≠ category →
      ∀ other ∈ arrivalsIn chart result.templates elsewhere root,
        other.object.id = arrival.object.id → other.generated = false) ∧
    ((∃ fault ∈ result.diagnostics, fault.category = some category ∧
        fault.cause = .redefinition arrival.object.id) ↔
      ∃ other ∈ front ++ back, other.object.id = arrival.object.id ∧ other.generated = false) ∧
    ((∀ other ∈ front, other.object.id ≠ arrival.object.id) →
      (result.tables.get category).get? arrival.object.id = some arrival.object) := by
  obtain ⟨_, same⟩ := templates_of_ofJson raw loaded
  have member : arrival ∈ arrivalsIn chart result.templates category root := by
    rw [arrives]
    exact List.mem_append_right _ (List.mem_cons_self ..)
  have reported : (∃ fault ∈ result.diagnostics, fault.category = some category ∧
        fault.cause = .redefinition arrival.object.id) ↔
      ∃ fault ∈ diagnosticsIn chart result.templates root category,
        fault.cause = .redefinition arrival.object.id := by
    rw [same]
    simp only [← and_assoc, ← mem_diagnosticsIn_iff]
    rfl
  refine ⟨exists_number_of_generated member generated, ?_, ?_, ?_, ?_⟩
  · exact fun other => explicit_of_same_id arrives generated
  · exact fun elsewhere differs other => explicit_of_same_id_elsewhere member generated differs
  · rw [reported, redefined_iff_exists_other arrives]
    constructor
    · rintro ⟨other, inside, taken⟩
      exact ⟨other, inside, taken, explicit_of_same_id arrives generated inside taken⟩
    · rintro ⟨other, inside, taken, _⟩
      exact ⟨other, inside, taken⟩
  · rw [same]
    exact get?_tables_board_of_free arrives

/-! A text that gives the id that is generated for the text behind it. -/

def claimedRoot : Node :=
  [("texts", .arr
      [.obj [("id", .str "auto:texts:1"), ("time", .int 0)],
       .obj [("time", .int 1)]])]

theorem ofJson_generated_claimed :
    isCompiled claimedRoot = false ∧
    ∃ result first second, ofJson Chart.empty false (.obj claimedRoot) = .ok result ∧
      arrivalsIn Chart.empty result.templates .text claimedRoot = [first] ++ second :: [] ∧
      first.generated = false ∧ second.generated = true ∧
      first.object.id = "auto:texts:1" ∧ second.object.id = "auto:texts:1" ∧
      ∃ fault ∈ result.diagnostics,
        fault.category = some .text ∧ fault.cause = .redefinition second.object.id := by
  have raw : isCompiled claimedRoot = false := by decide
  have computed : (arrivalsIn Chart.empty Templates.empty .text claimedRoot).map (fun arrival =>
      (arrival.generated, arrival.object.id)) =
        [(false, "auto:texts:1"), (true, "auto:texts:1")] := by
    decide +kernel
  obtain ⟨first, others, listed, given, rest⟩ := List.map_eq_cons_iff.1 computed
  obtain ⟨second, final, rfl, made, done⟩ := List.map_eq_cons_iff.1 rest
  obtain rfl := List.map_eq_nil_iff.1 done
  obtain ⟨explicit, firstId⟩ := Prod.mk.inj given
  obtain ⟨generated, secondId⟩ := Prod.mk.inj made
  have loads : (ofJson Chart.empty false (.obj claimedRoot)).toOption.isSome = true := by
    decide +kernel
  obtain ⟨result, found⟩ := Option.isSome_iff_exists.1 loads
  have loaded := Result.eq_ok_of_toOption found
  have plain : result.templates = Templates.empty :=
    (Except.ok.inj (templates_of_ofJson raw loaded).1).symm
  have arrives : arrivalsIn Chart.empty result.templates .text claimedRoot =
      [first] ++ second :: [] := by
    rw [plain]
    exact listed
  obtain ⟨_, _, _, reported, _⟩ := ofJson_generated raw loaded arrives generated
  refine ⟨raw, result, first, second, loaded, arrives, explicit, generated, firstId, secondId,
    reported.2 ⟨first, List.mem_append_left _ (List.mem_singleton.2 rfl), ?_, explicit⟩⟩
  rw [firstId, secondId]

end Board
end Storyboard
