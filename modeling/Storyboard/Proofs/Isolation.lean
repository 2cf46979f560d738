import Storyboard.Proofs.Accounting

/-!
# Elements that add nothing

An element of a category array that adds no object to its table and takes no number leaves no trace
but its diagnostics: without it the document loads to the same tables, triggers and templates, and
to the same diagnostics except its own, with the elements behind it moved up by one position. What
an outcome comes to depends on the elements in front of it only through the counter and the ids that
are taken, and such an element changes neither.
-/
namespace Storyboard

variable {category : Category}

/-! ## Moving elements -/

namespace Fault

/-- The fault of the same element one position further down. -/
def next (fault : Fault) : Fault := { fault with index := fault.index.map (· + 1) }

/-- Whether a fault is one of the element at a position of a category array. -/
def IsAt (category : Category) (position : Nat) (fault : Fault) : Prop :=
  fault.category = some category ∧ fault.index = some position

instance (category : Category) (position : Nat) (fault : Fault) :
    Decidable (fault.IsAt category position) :=
  inferInstanceAs (Decidable (_ ∧ _))

/-- The fault after the element at a position of a category array is gone. -/
def closeUp (category : Category) (position : Nat) (fault : Fault) : Fault :=
  if fault.category = some category then
    { fault with
      index := fault.index.map fun index => if position < index then index - 1 else index }
  else fault

/-- Diagnostics without those of the element at a position of a category array. -/
def without (category : Category) (position : Nat) (faults : List Fault) : List Fault :=
  (faults.filter fun fault => ¬ fault.IsAt category position).map (closeUp category position)

variable {position : Nat} {fault : Fault} {faults : List Fault}

theorem without_append (faults later : List Fault) :
    without category position (faults ++ later) =
      without category position faults ++ without category position later := by
  simp [without]

theorem without_flatMap {α : Type} (xs : List α) (f : α → List Fault) :
    without category position (xs.flatMap f) =
      xs.flatMap fun x => without category position (f x) := by
  induction xs with
  | nil => rfl
  | cons x xs ih => rw [List.flatMap_cons, List.flatMap_cons, without_append, ih]

/-- Faults that are neither at the position nor behind it stay. -/
theorem without_eq_self (clear : ∀ fault ∈ faults, fault.category = some category →
    ∀ index, fault.index = some index → index < position) :
    without category position faults = faults := by
  have kept : faults.filter (fun fault => ¬ fault.IsAt category position) = faults := by
    refine List.filter_eq_self.2 fun fault member => decide_eq_true ?_
    rintro ⟨same, here⟩
    exact Nat.lt_irrefl _ (clear fault member same position here)
  have still : ∀ fault ∈ faults, closeUp category position fault = fault := by
    intro fault member
    unfold closeUp
    split
    · next same =>
      cases placed : fault.index with
      | none =>
        cases fault
        simp_all
      | some index =>
        have before := clear fault member same index placed
        have kept : ¬ position < index := Nat.lt_asymm before
        rw [Option.map_some, if_neg kept, ← placed]
    · rfl
  rw [without, kept]
  exact (List.map_congr_left still).trans (List.map_id _)

theorem without_eq_nil (here : ∀ fault ∈ faults, fault.IsAt category position) :
    without category position faults = [] := by
  rw [without, List.filter_eq_nil_iff.2, List.map_nil]
  intro fault member
  simpa using here fault member

theorem without_map_next (behind : ∀ fault ∈ faults, fault.category = some category ∧
    ∃ index, position ≤ index ∧ fault.index = some index) :
    without category position (faults.map next) = faults := by
  induction faults with
  | nil => rfl
  | cons fault rest ih =>
    obtain ⟨same, index, after, placed⟩ := behind fault (List.mem_cons_self ..)
    have kept : ¬ (next fault).IsAt category position := by
      rintro ⟨_, here⟩
      simp only [next, placed, Option.map_some, Option.some.injEq] at here
      omega
    have back : closeUp category position (next fault) = fault := by
      have moved : position < index + 1 := by omega
      cases fault
      simp_all [closeUp, next]
    have others := ih fun fault member => behind fault (List.mem_cons_of_mem _ member)
    rw [without] at others
    rw [without, List.map_cons, List.filter_cons, if_pos (decide_eq_true kept), List.map_cons, back,
      others]

end Fault

/-- The same outcome of an element one position further down. -/
def Outcome.next (outcome : Outcome category) : Outcome category :=
  { outcome with index := outcome.index + 1 }

namespace Declarations

/-- The same variant of an element one position further down. -/
def Variant.next (variant : Variant) : Variant := { variant with index := variant.index + 1 }

/-- What the elements of an array from a position on stand for. -/
def variantsBehind (chart : Chart) (position : Nat) (items : List Json) : List Variant :=
  (items.zipIdx position).flatMap (variantsOf chart)

variable {chart : Chart} {templates : Templates}

theorem variantsOf_next (item : Json) (index : Nat) :
    variantsOf chart (item, index + 1) = (variantsOf chart (item, index)).map Variant.next := by
  cases item with
  | obj node =>
    simp only [variantsOf]
    cases fanOut chart node with
    | error fault => rfl
    | ok nodes => simp [Variant.next]
  | _ => rfl

theorem variantsBehind_next (position : Nat) (items : List Json) :
    variantsBehind chart (position + 1) items =
      (variantsBehind chart position items).map Variant.next := by
  simp only [variantsBehind, List.zipIdx_succ, List.flatMap_map, List.map_flatMap]
  exact congrArg (fun f => List.flatMap f _) (funext fun element => variantsOf_next ..)

theorem variants_append (front back : List Json) :
    variants chart (front ++ back) =
      variants chart front ++ variantsBehind chart front.length back := by
  rw [variants, List.zipIdx_append, List.flatMap_append, Nat.zero_add]
  rfl

theorem index_of_mem_variantsOf {element : Json × Nat} {variant : Variant}
    (member : variant ∈ variantsOf chart element) : variant.index = element.2 := by
  rcases cases_of_mem_variantsOf member with ⟨_, _, _, rfl⟩ | ⟨_, rfl⟩ | rfl <;> rfl

theorem index_of_mem_variantsBehind {position : Nat} {items : List Json} {variant : Variant}
    (member : variant ∈ variantsBehind chart position items) :
    position ≤ variant.index ∧ variant.index < position + items.length := by
  obtain ⟨⟨item, index⟩, inside, among⟩ := List.mem_flatMap.1 member
  rw [index_of_mem_variantsOf among]
  exact ⟨List.le_snd_of_mem_zipIdx inside, List.snd_lt_add_of_mem_zipIdx inside⟩

theorem numbers_map_next (found : List Variant) :
    numbers chart templates category (found.map Variant.next) =
      numbers chart templates category found := by
  rw [numbers, List.countP_map]
  rfl

theorem ends_map_next (found : List Variant) :
    (found.map Variant.next).all (Variant.ends chart templates category) =
      found.all (Variant.ends chart templates category) := by
  rw [List.all_map]
  rfl

theorem outcomesFrom_map_next (counter : Nat) (found : List Variant) :
    outcomesFrom chart templates category counter (found.map Variant.next) =
      (outcomesFrom chart templates category counter found).map Outcome.next := by
  induction found generalizing counter with
  | nil => rfl
  | cons variant rest ih =>
    rw [List.map_cons, outcomesFrom_cons, outcomesFrom_cons, List.map_cons, ih]
    rfl

theorem index_of_mem_outcomesFrom {counter : Nat} {found : List Variant}
    {outcome : Outcome category}
    (member : outcome ∈ outcomesFrom chart templates category counter found) :
    ∃ variant ∈ found, outcome.index = variant.index := by
  obtain ⟨⟨front, variant⟩, inside, rfl⟩ := List.mem_map.1 member
  exact ⟨variant, mem_of_mem_withFront inside, rfl⟩

theorem index_of_mem_variants {counter : Nat} {items : List Json} {outcome : Outcome category}
    (member : outcome ∈
      outcomesFrom chart templates category counter (variants chart items)) :
    outcome.index < items.length := by
  obtain ⟨variant, among, same⟩ := index_of_mem_outcomesFrom member
  have bounds : 0 ≤ variant.index ∧ variant.index < 0 + items.length :=
    index_of_mem_variantsBehind among
  omega

theorem index_of_mem_element {counter : Nat} {element : Json × Nat} {outcome : Outcome category}
    (member : outcome ∈
      outcomesFrom chart templates category counter (variantsOf chart element)) :
    outcome.index = element.2 := by
  obtain ⟨variant, among, same⟩ := index_of_mem_outcomesFrom member
  rw [same, index_of_mem_variantsOf among]

end Declarations

/-! ## Outcomes behind outcomes -/

namespace Outcome

variable {front other : List (Outcome category)}

theorem diagnostic?_congr (same : ∀ id, first? front id = first? other id)
    (outcome : Outcome category) : diagnostic? front outcome = diagnostic? other outcome := by
  unfold diagnostic?
  simp only [same]

/-- The diagnostics of outcomes depend on those in front only through the ids that are taken. -/
theorem diagnosticsBehind_congr (same : ∀ id, first? front id = first? other id)
    (outcomes : List (Outcome category)) :
    diagnosticsBehind front outcomes = diagnosticsBehind other outcomes := by
  refine List.filterMap_congr fun pair _ => diagnostic?_congr (fun id => ?_) pair.2
  rw [first?_append, first?_append, same]

theorem first?_map_next (outcomes : List (Outcome category)) (id : String) :
    first? (outcomes.map next) id = first? outcomes id := by
  rw [first?, objects, List.filterMap_map]
  rfl

theorem diagnostic?_next (outcome : Outcome category) :
    diagnostic? front outcome.next = (diagnostic? front outcome).map Fault.next := by
  obtain ⟨index, result⟩ := outcome
  cases result with
  | error stop => cases stop <;> rfl
  | ok object =>
    simp only [diagnostic?, next, Option.map_map]
    rfl

theorem diagnosticsBehind_map_next (outcomes : List (Outcome category)) :
    diagnosticsBehind front (outcomes.map next) =
      (diagnosticsBehind front outcomes).map Fault.next := by
  induction outcomes generalizing front with
  | nil => rfl
  | cons outcome rest ih =>
    have moved : diagnosticsBehind (front ++ [outcome.next]) (rest.map next) =
        diagnosticsBehind (front ++ [outcome]) (rest.map next) := by
      refine diagnosticsBehind_congr (fun id => ?_) _
      rw [first?_append, first?_append]
      exact congrArg _ (first?_map_next [outcome] id)
    rw [List.map_cons, diagnosticsBehind_cons, diagnosticsBehind_cons, List.map_append,
      diagnostic?_next, moved, ih]
    cases diagnostic? front outcome <;> rfl

/-- Outcomes behind others all of which are reported. -/
def AllReported (front outcomes : List (Outcome category)) : Prop :=
  ∀ placed ∈ withFront outcomes, (diagnostic? (front ++ placed.1) placed.2).isSome

instance (front outcomes : List (Outcome category)) : Decidable (AllReported front outcomes) :=
  inferInstanceAs (Decidable (∀ placed ∈ withFront outcomes, _))

theorem AllReported.cons {outcome : Outcome category} {rest : List (Outcome category)}
    (reported : AllReported front (outcome :: rest)) :
    (diagnostic? front outcome).isSome ∧ AllReported (front ++ [outcome]) rest := by
  simp only [AllReported, withFront, List.forall_mem_cons, List.forall_mem_map, List.append_nil,
    ← List.append_cons] at reported ⊢
  exact reported

/-- An outcome that is reported takes no id that was free. -/
theorem first?_concat_of_reported {outcome : Outcome category}
    (reported : (diagnostic? front outcome).isSome) (id : String) :
    first? (front ++ [outcome]) id = first? front id := by
  obtain ⟨index, result⟩ := outcome
  cases result with
  | error stop => exact first?_concat_error front index stop id
  | ok object =>
    rw [diagnostic?, Option.isSome_map] at reported
    obtain ⟨earlier, taken⟩ := Option.isSome_iff_exists.1 reported
    rw [first?_concat_ok]
    split
    · next same => rw [← same, taken, Option.some_or]
    · exact Option.or_none

/-- The work on what is reported comes to an end. -/
theorem ends_of_reported {outcome : Outcome category}
    (reported : (diagnostic? front outcome).isSome) : outcome.ends = true := by
  obtain ⟨index, result⟩ := outcome
  cases result with
  | error stop =>
    cases stop with
    | failed fault => rfl
    | endless => cases reported
  | ok object => rfl

theorem AllReported.all_ends {outcomes : List (Outcome category)}
    (reported : AllReported front outcomes) : outcomes.all ends = true := by
  induction outcomes generalizing front with
  | nil => rfl
  | cons outcome rest ih =>
    obtain ⟨first, others⟩ := reported.cons
    rw [List.all_cons, ends_of_reported first, ih others]
    rfl

theorem AllReported.first?_append {outcomes : List (Outcome category)}
    (reported : AllReported front outcomes) (id : String) :
    first? (front ++ outcomes) id = first? front id := by
  induction outcomes generalizing front with
  | nil => rw [List.append_nil]
  | cons outcome rest ih =>
    obtain ⟨first, others⟩ := reported.cons
    rw [List.append_cons, ih others, first?_concat_of_reported first]

end Outcome

namespace Declarations

variable {chart : Chart} {templates : Templates}

/-- An element of a category array that adds no object to the table behind the elements in front of
it, and that takes no number. The counter is the one in front of the array. -/
structure AddsNothing (chart : Chart) (templates : Templates) (category : Category) (counter : Nat)
    (front : List Json) (item : Json) : Prop where
  reported : Outcome.AllReported (outcomes chart templates category front counter).1
    (ofElement chart templates category (item, front.length)
      (outcomes chart templates category front counter).2).1
  still : (ofElement chart templates category (item, front.length)
      (outcomes chart templates category front counter).2).2 =
    (outcomes chart templates category front counter).2

theorem variants_append_cons (front : List Json) (item : Json) (back : List Json) :
    variants chart (front ++ item :: back) =
      variants chart front ++ (variantsOf chart (item, front.length) ++
        (variantsBehind chart front.length back).map Variant.next) := by
  rw [variants_append, ← variantsBehind_next]
  rfl

namespace AddsNothing

variable {counter : Nat} {front back : List Json} {item : Json}

theorem numbers_variantsOf (idle : AddsNothing chart templates category counter front item) :
    numbers chart templates category (variantsOf chart (item, front.length)) = 0 := by
  have still := idle.still
  rw [ofElement_eq] at still
  exact Nat.add_eq_left.1 still

theorem numbers_variants (idle : AddsNothing chart templates category counter front item) :
    numbers chart templates category (variants chart (front ++ back)) =
      numbers chart templates category (variants chart (front ++ item :: back)) := by
  rw [variants_append, variants_append_cons, numbers_append, numbers_append, numbers_append,
    idle.numbers_variantsOf, numbers_map_next, Nat.zero_add]

theorem ends_variants (idle : AddsNothing chart templates category counter front item) :
    (variants chart (front ++ back)).all (Variant.ends chart templates category) =
      (variants chart (front ++ item :: back)).all (Variant.ends chart templates category) := by
  have own := idle.reported.all_ends
  rw [ofElement_eq, ends_outcomesFrom] at own
  rw [variants_append, variants_append_cons, List.all_append, List.all_append, List.all_append, own,
    ends_map_next, Bool.true_and]

/-- With the element and without it, an array has the same outcomes in front of it and, one position
further down, behind it. -/
theorem exists_outcomes (idle : AddsNothing chart templates category counter front item)
    (back : List Json) :
    ∃ found own later : List (Outcome category),
      outcomesFrom chart templates category counter (variants chart (front ++ item :: back)) =
        found ++ (own ++ later.map Outcome.next) ∧
      outcomesFrom chart templates category counter (variants chart (front ++ back)) =
        found ++ later ∧
      Outcome.AllReported found own ∧
      (∀ outcome ∈ found, outcome.index < front.length) ∧
      (∀ outcome ∈ own, outcome.index = front.length) ∧
      ∀ outcome ∈ later, front.length ≤ outcome.index := by
  have reported := idle.reported
  rw [ofElement_eq, outcomes_eq] at reported
  -- the element takes no number, so with it or without it what comes next starts from here
  let behind := counter + numbers chart templates category (variants chart front)
  refine ⟨outcomesFrom chart templates category counter (variants chart front),
    outcomesFrom chart templates category behind (variantsOf chart (item, front.length)),
    outcomesFrom chart templates category behind (variantsBehind chart front.length back),
    ?_, ?_, reported, ?_, ?_, ?_⟩
  · rw [variants_append_cons, outcomesFrom_append, outcomesFrom_append, idle.numbers_variantsOf,
      outcomesFrom_map_next, Nat.add_zero]
  · rw [variants_append, outcomesFrom_append]
  · exact fun outcome => index_of_mem_variants
  · exact fun outcome => index_of_mem_element
  · intro outcome member
    obtain ⟨variant, among, same⟩ := index_of_mem_outcomesFrom member
    rw [same]
    exact (index_of_mem_variantsBehind among).1

theorem first?_outcomesFrom (idle : AddsNothing chart templates category counter front item)
    (id : String) :
    Outcome.first?
        (outcomesFrom chart templates category counter (variants chart (front ++ back))) id =
      Outcome.first?
        (outcomesFrom chart templates category counter (variants chart (front ++ item :: back)))
        id := by
  obtain ⟨found, own, later, full, rest, reported, _⟩ := idle.exists_outcomes back
  rw [full, rest, ← List.append_assoc, Outcome.first?_append, Outcome.first?_append,
    reported.first?_append, Outcome.first?_map_next]

theorem diagnostics_outcomesFrom
    (idle : AddsNothing chart templates category counter front item) :
    Outcome.diagnostics
        (outcomesFrom chart templates category counter (variants chart (front ++ back))) =
      Fault.without category front.length (Outcome.diagnostics
        (outcomesFrom chart templates category counter
          (variants chart (front ++ item :: back)))) := by
  obtain ⟨found, own, later, full, rest, reported, before, here, behind⟩ :=
    idle.exists_outcomes back
  have unmoved : Fault.without category front.length (Outcome.diagnosticsBehind [] found) =
      Outcome.diagnosticsBehind [] found := by
    refine Fault.without_eq_self fun fault member _ index placed => ?_
    obtain ⟨_, outcome, among, same⟩ := Outcome.place_of_mem_diagnosticsBehind member
    rw [same] at placed
    cases placed
    exact before outcome among
  have gone : Fault.without category front.length (Outcome.diagnosticsBehind found own) = [] := by
    refine Fault.without_eq_nil fun fault member => ?_
    obtain ⟨located, outcome, among, same⟩ := Outcome.place_of_mem_diagnosticsBehind member
    rw [here outcome among] at same
    exact ⟨located, same⟩
  have moved : Fault.without category front.length
        ((Outcome.diagnosticsBehind found later).map Fault.next) =
      Outcome.diagnosticsBehind found later := by
    refine Fault.without_map_next fun fault member => ?_
    obtain ⟨located, outcome, among, same⟩ := Outcome.place_of_mem_diagnosticsBehind member
    exact ⟨located, outcome.index, behind outcome among, same⟩
  -- what is behind the element finds the same ids taken as if the element were not there
  have same : Outcome.diagnosticsBehind (found ++ own) (later.map Outcome.next) =
      (Outcome.diagnosticsBehind found later).map Fault.next := by
    rw [Outcome.diagnosticsBehind_congr reported.first?_append,
      Outcome.diagnosticsBehind_map_next]
  rw [full, rest, Outcome.diagnostics, Outcome.diagnostics, Outcome.diagnosticsBehind_append,
    Outcome.diagnosticsBehind_append, Outcome.diagnosticsBehind_append, List.nil_append, same,
    Fault.without_append, Fault.without_append, unmoved, gone, moved, List.nil_append]

end AddsNothing

/-! ## Documents -/

variable {root : Node} {other : Category}

theorem given?_insert (root : Node) (key field : String) (items : List Json) :
    Node.given? (Keyed.insert key (.arr items) root) field =
      if key = field then some (.arr items) else root.given? field := by
  rw [Node.given?, Keyed.get?_insert]
  by_cases same : key = field
  · rw [if_pos same, if_pos same]
  · rw [if_neg same, if_neg same]
    rfl

theorem given?_insert_key (root : Node) (items : List Json) :
    Node.given? (Keyed.insert category.key (.arr items) root) other.key =
      if category = other then some (.arr items) else root.given? other.key := by
  rw [given?_insert]
  congr 1
  cases category <;> cases other <;> decide

theorem elements_insert (root : Node) (items : List Json) :
    elements (Keyed.insert category.key (.arr items) root) category = items :=
  elements_of_array (by rw [given?_insert_key, if_pos rfl])

theorem elements_insert_of_ne (differs : category ≠ other) (root : Node) (items : List Json) :
    elements (Keyed.insert category.key (.arr items) root) other = elements root other := by
  rw [elements, given?_insert_key, if_neg differs]
  rfl

/-- An element of a category array that can be taken out of a document. -/
structure Removal (chart : Chart) (templates : Templates) (root : Node) (category : Category)
    (front : List Json) (item : Json) (back : List Json) : Prop where
  given : root.given? category.key = some (.arr (front ++ item :: back))
  idle : AddsNothing chart templates category (start chart templates root category) front item

namespace Removal

variable {front back : List Json} {item : Json}

theorem numbers_variantsIn (removal : Removal chart templates root category front item back) :
    numbers chart templates other
        (variantsIn chart (Keyed.insert category.key (.arr (front ++ back)) root) other) =
      numbers chart templates other (variantsIn chart root other) := by
  by_cases same : category = other
  · subst same
    rw [variantsIn, variantsIn, elements_insert, elements_of_array removal.given]
    exact removal.idle.numbers_variants
  · rw [variantsIn, variantsIn, elements_insert_of_ne same]

/-- Without the element, the load comes to an end if it does with the element. -/
theorem ends_eq (removal : Removal chart templates root category front item back) :
    ends chart templates (Keyed.insert category.key (.arr (front ++ back)) root) =
      ends chart templates root := by
  refine congrArg (List.all Category.all) (funext fun other => ?_)
  by_cases same : category = other
  · subst same
    rw [variantsIn, variantsIn, elements_insert, elements_of_array removal.given]
    exact removal.idle.ends_variants
  · rw [variantsIn, variantsIn, elements_insert_of_ne same]

theorem start_eq (removal : Removal chart templates root category front item back) :
    start chart templates (Keyed.insert category.key (.arr (front ++ back)) root) other =
      start chart templates root other := by
  simp only [start, removal.numbers_variantsIn]

theorem outcomesIn_of_ne (removal : Removal chart templates root category front item back)
    (differs : category ≠ other) :
    outcomesIn chart templates (Keyed.insert category.key (.arr (front ++ back)) root) other =
      outcomesIn chart templates root other := by
  rw [outcomesIn, outcomesIn, removal.start_eq, variantsIn, variantsIn,
    elements_insert_of_ne differs]

theorem first?_outcomesIn (removal : Removal chart templates root category front item back)
    (id : String) :
    Outcome.first? (outcomesIn chart templates
        (Keyed.insert category.key (.arr (front ++ back)) root) other) id =
      Outcome.first? (outcomesIn chart templates root other) id := by
  by_cases same : category = other
  · subst same
    rw [outcomesIn, outcomesIn, removal.start_eq, variantsIn, variantsIn, elements_insert,
      elements_of_array removal.given]
    exact removal.idle.first?_outcomesFrom id
  · rw [removal.outcomesIn_of_ne same]

theorem diagnosticsIn_eq (removal : Removal chart templates root category front item back) :
    diagnosticsIn chart templates (Keyed.insert category.key (.arr (front ++ back)) root) other =
      Fault.without category front.length (diagnosticsIn chart templates root other) := by
  by_cases same : category = other
  · subst same
    rw [diagnosticsIn, diagnosticsIn, given?_insert_key, if_pos rfl, removal.given, outcomesIn,
      outcomesIn, removal.start_eq, variantsIn, variantsIn, elements_insert,
      elements_of_array removal.given]
    exact removal.idle.diagnostics_outcomesFrom
  · have elsewhere :
        Fault.without category front.length (diagnosticsIn chart templates root other) =
          diagnosticsIn chart templates root other := by
      refine Fault.without_eq_self fun fault member located => ?_
      rw [category_of_mem_diagnosticsIn member] at located
      exact absurd (Option.some.inj located).symm same
    rw [elsewhere, diagnosticsIn, diagnosticsIn, given?_insert_key, if_neg same,
      removal.outcomesIn_of_ne same]

theorem triggers_insert (root : Node) (items : List Json) :
    triggers (Keyed.insert category.key (.arr items) root) = triggers root := by
  have other : category.key ≠ "triggers" := by cases category <;> decide
  rw [triggers, given?_insert, if_neg other]
  rfl

end Removal
end Declarations

theorem Board.ext_fields {board other : Board} (tables : board.tables = other.tables)
    (triggers : board.triggers = other.triggers) (templates : board.templates = other.templates)
    (diagnostics : board.diagnostics = other.diagnostics) : board = other := by
  cases board
  cases other
  rw [Board.mk.injEq]
  exact ⟨tables, triggers, templates, diagnostics⟩

namespace Declarations

variable {chart : Chart} {templates : Templates} {root : Node} {front back : List Json}
  {item : Json}

/-- Without such an element a document makes the same board but for the diagnostics. -/
theorem Removal.board_eq (removal : Removal chart templates root category front item back) :
    board chart templates (Keyed.insert category.key (.arr (front ++ back)) root) =
      { board chart templates root with
        diagnostics :=
          Fault.without category front.length (board chart templates root).diagnostics } := by
  have tables : (board chart templates
        (Keyed.insert category.key (.arr (front ++ back)) root)).tables =
      (board chart templates root).tables := by
    refine PerCategory.ext_get fun other => Table.ext_get? fun id => ?_
    rw [get?_tables_board, get?_tables_board, removal.first?_outcomesIn]
  have others : Fault.without category front.length (triggers root).2 = (triggers root).2 := by
    refine Fault.without_eq_self fun fault member located => ?_
    rw [triggers_eq] at member
    rw [uncategorized_of_mem_triggerFaultsIn member] at located
    cases located
  have diagnostics : (board chart templates
        (Keyed.insert category.key (.arr (front ++ back)) root)).diagnostics =
      Fault.without category front.length (board chart templates root).diagnostics := by
    simp only [board, triggers_insert, Fault.without_append, Fault.without_flatMap, others]
    congr 1
    exact congrArg (fun each => List.flatMap each _) (funext fun other => removal.diagnosticsIn_eq)
  have armed : (board chart templates
        (Keyed.insert category.key (.arr (front ++ back)) root)).triggers =
      (board chart templates root).triggers := by
    rw [board, board, triggers_insert]
  exact Board.ext_fields tables armed rfl diagnostics

end Declarations

namespace Board

open Declarations

variable {chart : Chart} {root : Node} {front back : List Json} {item : Json}

/-- With another array for a category, a document of declarations stays one, with its templates. -/
theorem ofJson_insert (raw : isCompiled root = false) (strict : Bool) (items : List Json) :
    ofJson chart strict (.obj (Keyed.insert category.key (.arr items) root)) =
      (Templates.ofJson (Keyed.get? root "templates")).mapError .failed >>=
        withTemplates chart strict (Keyed.insert category.key (.arr items) root) := by
  have compiled : category.key ≠ "compiled" := by cases category <;> decide
  have fragments : category.key ≠ "templates" := by cases category <;> decide
  have stays : isCompiled (Keyed.insert category.key (.arr items) root) = false := by
    rw [isCompiled, Keyed.get?_insert, if_neg compiled]
    exact raw
  rw [ofJson_of_raw stays, Keyed.get?_insert, if_neg fragments]

/-- With its templates, a document without such an element loads as it does with the element, but
for the diagnostics. -/
theorem withTemplates_without {templates : Templates}
    (removal : Removal chart templates root category front item back) :
    withTemplates chart false (Keyed.insert category.key (.arr (front ++ back)) root) templates =
      (withTemplates chart false root templates).map fun board =>
        { board with
          diagnostics := Fault.without category front.length board.diagnostics } := by
  rw [withTemplates, withTemplates, removal.ends_eq, removal.board_eq]
  cases ends chart templates root with
  | false => rfl
  | true => rfl

/-- **Elements that add nothing.** An element of a category array each of whose outcomes is
reported, and that takes no number, leaves no trace but its diagnostics. The document without it
loads if the document with it does, and to the same tables, triggers and templates; its diagnostics
are the same without those of the element, with the elements behind it one position further up. -/
theorem ofJson_without (raw : isCompiled root = false)
    (given : root.given? category.key = some (.arr (front ++ item :: back)))
    (idle : ∀ templates, Templates.ofJson (Keyed.get? root "templates") = .ok templates →
      AddsNothing chart templates category (start chart templates root category) front item) :
    ofJson chart false (.obj (Keyed.insert category.key (.arr (front ++ back)) root)) =
      (ofJson chart false (.obj root)).map fun board =>
        { board with
          diagnostics := Fault.without category front.length board.diagnostics } := by
  rw [ofJson_insert raw, ofJson_of_raw raw]
  cases read : Templates.ofJson (Keyed.get? root "templates") with
  | error fault => rfl
  | ok templates =>
    exact withTemplates_without ⟨given, idle templates read⟩

/-! Two variants of one text repeat the id in front of them; behind it come a text that takes a
number and an element that is no declaration. -/

def keptText : Json := .obj [("id", .str "a")]

def repeatedText : Json := .obj [("id", .str "a"), ("time", .arr [.int 1, .int 2])]

def repeatedRoot : Node := [("texts", .arr ([keptText] ++ repeatedText :: [.obj [], .int 7]))]

/-- The codes and positions of diagnostics. -/
def places (faults : List Fault) : List (String × Option Nat) :=
  faults.map fun fault => (fault.cause.code, fault.index)

theorem ofJson_without_repeated :
    isCompiled repeatedRoot = false ∧
    repeatedRoot.given? Category.text.key =
      some (.arr ([keptText] ++ repeatedText :: [.obj [], .int 7])) ∧
    AddsNothing Chart.empty Templates.empty .text 0 [keptText] repeatedText ∧
    ∃ board, ofJson Chart.empty false (.obj repeatedRoot) = .ok board ∧
      places board.diagnostics = [("E4101", some 1), ("E4101", some 1), ("E1003", some 3)] ∧
      ∃ faults,
        ofJson Chart.empty false (.obj [("texts", .arr [keptText, .obj [], .int 7])]) =
          .ok { board with diagnostics := faults } ∧
        places faults = [("E1003", some 2)] := by
  have raw : isCompiled repeatedRoot = false := by decide
  have idle : AddsNothing Chart.empty Templates.empty .text 0 [keptText] repeatedText :=
    ⟨by decide +kernel, by decide +kernel⟩
  have given : repeatedRoot.given? Category.text.key =
      some (.arr ([keptText] ++ repeatedText :: [.obj [], .int 7])) := rfl
  have idleIn (templates : Templates)
      (read : Templates.ofJson (Keyed.get? repeatedRoot "templates") = .ok templates) :
      AddsNothing Chart.empty templates .text (start Chart.empty templates repeatedRoot .text)
        [keptText] repeatedText := by
    cases read
    exact idle
  have shorter := ofJson_without raw given idleIn
  have computed : (ofJson Chart.empty false (.obj repeatedRoot)).toOption.map (fun board =>
        (places board.diagnostics, places (Fault.without .text 1 board.diagnostics))) =
      some ([("E4101", some 1), ("E4101", some 1), ("E1003", some 3)], [("E1003", some 2)]) := by
    decide +kernel
  obtain ⟨board, found, same⟩ := Option.map_eq_some_iff.1 computed
  have loaded := Result.eq_ok_of_toOption found
  rw [loaded] at shorter
  exact ⟨raw, given, idle, board, loaded, (Prod.mk.inj same).1, _, shorter, (Prod.mk.inj same).2⟩

end Board
end Storyboard
