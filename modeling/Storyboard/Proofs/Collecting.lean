import Mathlib.Data.List.Nodup
import Storyboard.Board.Basic

/-!
# Collecting outcomes

What a load keeps and what it reports, said of each outcome by looking back at those in front of
it: an object is kept if no object in front of it has its id, and every other outcome gives one
diagnostic. So a table holds the first object of each id, and every outcome is counted once.
-/
namespace Storyboard

/-! ## Looking back along a list -/

/-- The items of a list, each with the items in front of it. -/
def withFront {α : Type} : List α → List (List α × α)
  | [] => []
  | x :: rest => ([], x) :: (withFront rest).map fun (front, y) => (x :: front, y)

section

variable {α : Type}

theorem withFront_append (xs ys : List α) :
    withFront (xs ++ ys) =
      withFront xs ++ (withFront ys).map fun (front, y) => (xs ++ front, y) := by
  induction xs with
  | nil => simp [withFront]
  | cons x xs ih => simp [withFront, ih, Function.comp_def]

theorem withFront_map {β : Type} (f : α → β) (xs : List α) :
    withFront (xs.map f) = (withFront xs).map fun (front, x) => (front.map f, f x) := by
  induction xs with
  | nil => rfl
  | cons x xs ih => simp [withFront, ih, Function.comp_def]

/-- The position of an item is the number of those in front of it. -/
theorem withFront_zipIdx (xs : List α) (start : Nat) :
    withFront (xs.zipIdx start) =
      (withFront xs).map fun (front, x) => (front.zipIdx start, x, start + front.length) := by
  induction xs generalizing start with
  | nil => rfl
  | cons x xs ih =>
    simp only [List.zipIdx_cons, withFront, ih, List.map_cons, List.map_map, Function.comp_def,
      List.zipIdx_nil, List.length_nil, List.length_cons, Nat.add_zero]
    simp only [Nat.add_assoc, Nat.add_comm 1]

theorem mem_withFront_iff {xs front : List α} {x : α} :
    (front, x) ∈ withFront xs ↔ ∃ back, xs = front ++ x :: back := by
  induction xs generalizing front with
  | nil => simp [withFront]
  | cons first rest ih =>
    simp only [withFront, List.mem_cons, List.mem_map, Prod.mk.injEq, Prod.exists]
    constructor
    · rintro (⟨rfl, rfl⟩ | ⟨behind, y, member, rfl, rfl⟩)
      · exact ⟨rest, rfl⟩
      · obtain ⟨back, rfl⟩ := ih.1 member
        exact ⟨back, rfl⟩
    · rintro ⟨back, same⟩
      rcases List.cons_eq_append_iff.1 same with ⟨rfl, split⟩ | ⟨behind, rfl, split⟩
      · cases split
        exact .inl ⟨rfl, rfl⟩
      · exact .inr ⟨behind, x, ih.2 ⟨back, split⟩, rfl, rfl⟩

theorem mem_of_mem_withFront {xs front : List α} {x : α} (member : (front, x) ∈ withFront xs) :
    x ∈ xs := by
  obtain ⟨back, split⟩ := mem_withFront_iff.1 member
  rw [split]
  exact List.mem_append_right _ (List.mem_cons_self ..)

/-- An item and those in front of it stand in front of every later item. -/
theorem pairwise_withFront {xs : List α} :
    (withFront xs).Pairwise fun earlier later => earlier.1 ++ [earlier.2] <+: later.1 := by
  induction xs with
  | nil => exact List.Pairwise.nil
  | cons x xs ih =>
    rw [withFront, List.pairwise_cons, List.pairwise_map]
    constructor
    · intro later member
      obtain ⟨⟨front, y⟩, _, rfl⟩ := List.mem_map.1 member
      exact List.prefix_append [x] front
    · exact ih.imp fun inside => List.cons_prefix_cons.2 ⟨rfl, inside⟩

end

variable {category : Category}

/-! ## Look-ups in tables -/

namespace Table

variable {table larger other : Table category} {object : StageObject category} {id : String}

/-- A table holds every object under its own id and under no other. -/
theorem get?_eq_some_iff :
    table.get? id = some object ↔ object ∈ table.objects ∧ object.id = id := by
  constructor
  · intro found
    have same := List.find?_some found
    exact ⟨List.mem_of_find?_eq_some found, of_decide_eq_true same⟩
  · rintro ⟨member, rfl⟩
    obtain ⟨before, after, split⟩ := List.append_of_mem member
    refine List.find?_eq_some_iff_append.2 ⟨decide_eq_true rfl, before, after, split, ?_⟩
    intro earlier inside
    -- the objects in front have smaller ids
    have sorted := table.sorted
    rw [split] at sorted
    have below := (List.pairwise_append.1 sorted).2.2 earlier inside object (List.mem_cons_self ..)
    have differs : earlier.id ≠ object.id := fun same => String.lt_irrefl _ (same ▸ below)
    simp [differs]

theorem get?_eq_none_iff : table.get? id = none ↔ ∀ object ∈ table.objects, object.id ≠ id := by
  simp [get?]

theorem eq_of_objects_eq (same : table.objects = other.objects) : table = other := by
  cases table
  cases other
  simpa using same

/-- Two tables in which every look-up comes to the same are the same. -/
theorem ext_get? (same : ∀ id, table.get? id = other.get? id) : table = other := by
  have members (object : StageObject category) :
      object ∈ table.objects ↔ object ∈ other.objects := by
    have held := same object.id
    constructor
    · intro member
      rw [get?_eq_some_iff.2 ⟨member, rfl⟩] at held
      exact (get?_eq_some_iff.1 held.symm).1
    · intro member
      rw [get?_eq_some_iff.2 ⟨member, rfl⟩] at held
      exact (get?_eq_some_iff.1 held).1
  have distinct (table : Table category) : table.objects.Nodup := by
    refine table.sorted.imp ?_
    rintro a _ below rfl
    exact String.lt_irrefl a.id below
  have reordered := (List.perm_ext_iff_of_nodup (distinct table) (distinct other)).2 members
  -- the order of the ids leaves one way to arrange the same objects
  exact eq_of_objects_eq <| reordered.eq_of_pairwise
    (fun a b _ _ before after => absurd (String.lt_trans before after) (String.lt_irrefl a.id))
    table.sorted other.sorted

theorem add?_eq_none_iff : table.add? object = none ↔ table.get? object.id ≠ none := by
  rw [Ne, get?_eq_none_iff, add?]
  split <;> simp_all

theorem exists_add?_of_get?_eq_none (free : table.get? object.id = none) :
    ∃ larger, table.add? object = some larger := by
  apply Option.ne_none_iff_exists'.1
  rw [Ne, add?_eq_none_iff, not_not]
  exact free

theorem mem_of_add? (added : table.add? object = some larger) (candidate : StageObject category) :
    candidate ∈ larger.objects ↔ candidate = object ∨ candidate ∈ table.objects := by
  unfold add? at added
  split at added
  · cases added
    exact mem_place
  · cases added

/-- An added object is found under its id, and all else is found as before. -/
theorem get?_of_add? (added : table.add? object = some larger) :
    larger.get? id = if object.id = id then some object else table.get? id := by
  split
  · next same => exact get?_eq_some_iff.2 ⟨(mem_of_add? added object).2 (.inl rfl), same⟩
  · next differs =>
    apply Option.ext
    intro candidate
    rw [get?_eq_some_iff, get?_eq_some_iff, mem_of_add? added]
    constructor
    · rintro ⟨rfl | member, same⟩
      · exact absurd same differs
      · exact ⟨member, same⟩
    · rintro ⟨member, same⟩
      exact ⟨.inr member, same⟩

theorem size_of_add? (added : table.add? object = some larger) : larger.size = table.size + 1 := by
  unfold add? at added
  split at added
  · cases added
    exact perm_place.length_eq
  · cases added

end Table

/-! ## Outcomes by looking back -/

namespace Outcome

/-- The objects among outcomes. -/
def objects (outcomes : List (Outcome category)) : List (StageObject category) :=
  outcomes.filterMap fun outcome => outcome.result.toOption

/-- The first object of an id. -/
def first? (outcomes : List (Outcome category)) (id : String) : Option (StageObject category) :=
  (objects outcomes).find? fun object => object.id = id

/-- The diagnostic that an outcome gives behind others: its fault, or that its id is taken. -/
def diagnostic? (front : List (Outcome category)) (outcome : Outcome category) : Option Fault :=
  match outcome.result with
  | .error .endless => none
  | .error (.failed fault) => some (fault.located category outcome.index)
  | .ok object =>
    (first? front object.id).map fun _ => redefinition category outcome.index object.id

/-- The diagnostics of outcomes that come behind others. -/
def diagnosticsBehind (front outcomes : List (Outcome category)) : List Fault :=
  (withFront outcomes).filterMap fun (between, outcome) => diagnostic? (front ++ between) outcome

/-- The diagnostics of a list of outcomes. -/
def diagnostics (outcomes : List (Outcome category)) : List Fault := diagnosticsBehind [] outcomes

/-- Where objects are already there, nothing is left to wait for. -/
theorem all_ends_ok (objects : List (StageObject category × Nat)) :
    (objects.map fun (object, index) => (⟨index, .ok object⟩ : Outcome category)).all ends =
      true := by
  rw [List.all_map]
  exact List.all_eq_true.2 fun _ _ => rfl

theorem first?_append (front back : List (Outcome category)) (id : String) :
    first? (front ++ back) id = (first? front id).or (first? back id) := by
  rw [first?, objects, List.filterMap_append, List.find?_append]
  rfl

theorem first?_concat_error (front : List (Outcome category)) (index : Nat) (stop : Stop Fault)
    (id : String) : first? (front ++ [⟨index, .error stop⟩]) id = first? front id := by
  rw [first?_append]
  exact Option.or_none

theorem first?_concat_ok (front : List (Outcome category)) (index : Nat)
    (object : StageObject category) (id : String) :
    first? (front ++ [⟨index, .ok object⟩]) id =
      (first? front id).or (if object.id = id then some object else none) := by
  rw [first?_append]
  congr 1
  simp [first?, objects, Except.toOption, List.find?_singleton]

theorem diagnosticsBehind_cons (front : List (Outcome category)) (outcome : Outcome category)
    (rest : List (Outcome category)) :
    diagnosticsBehind front (outcome :: rest) =
      (diagnostic? front outcome).toList ++ diagnosticsBehind (front ++ [outcome]) rest := by
  simp only [diagnosticsBehind, withFront, List.filterMap_cons, List.filterMap_map, List.append_nil]
  cases diagnostic? front outcome <;> simp

theorem diagnosticsBehind_append (front outcomes later : List (Outcome category)) :
    diagnosticsBehind front (outcomes ++ later) =
      diagnosticsBehind front outcomes ++ diagnosticsBehind (front ++ outcomes) later := by
  simp [diagnosticsBehind, withFront_append]

/-- A table that holds the first object of each id among some outcomes. -/
def Held (table : Table category) (outcomes : List (Outcome category)) : Prop :=
  ∀ id, table.get? id = first? outcomes id

theorem held_empty : Held (Table.empty : Table category) [] := fun _ => rfl

/-- One outcome gives the diagnostic that looking back gives it, and the table that goes on holds
the first objects again. -/
theorem collect_step {held : Table category} {front : List (Outcome category)}
    (outcome : Outcome category) (holds : Held held front) :
    ∃ next, Held next (front ++ [outcome]) ∧
      ∀ rest, collect Table.add? held (outcome :: rest) =
        ((collect Table.add? next rest).1,
          (diagnostic? front outcome).toList ++ (collect Table.add? next rest).2) := by
  obtain ⟨index, result⟩ := outcome
  cases result with
  | error stop =>
    refine ⟨held, fun id => ?_, fun rest => ?_⟩
    · rw [first?_concat_error, holds]
    · cases stop <;> rfl
  | ok object =>
    cases taken : first? front object.id with
    | none =>
      -- the table does not hold the id either, so it takes the object
      obtain ⟨larger, added⟩ := Table.exists_add?_of_get?_eq_none ((holds object.id).trans taken)
      refine ⟨larger, fun id => ?_, fun rest => ?_⟩
      · rw [Table.get?_of_add? added, first?_concat_ok, holds]
        split
        · next same => rw [← same, taken]; rfl
        · exact Option.or_none.symm
      · simp only [collect, added, diagnostic?, taken]
        rfl
    | some earlier =>
      -- the first object of the id stays, and the table with it
      have refused : held.add? object = none := by
        rw [Table.add?_eq_none_iff, holds, taken]
        exact Option.some_ne_none earlier
      refine ⟨held, fun id => ?_, fun rest => ?_⟩
      · rw [first?_concat_ok, holds]
        split
        · next same => rw [← same, taken]; rfl
        · exact Option.or_none.symm
      · simp only [collect, refused, diagnostic?, taken]
        rfl

/-- Collecting behind some outcomes keeps the first objects and gives the diagnostics of what
comes. -/
theorem collect_behind {held : Table category} {front : List (Outcome category)}
    (outcomes : List (Outcome category)) (holds : Held held front) :
    Held (collect Table.add? held outcomes).1 (front ++ outcomes) ∧
      (collect Table.add? held outcomes).2 = diagnosticsBehind front outcomes := by
  induction outcomes generalizing held front with
  | nil =>
    rw [List.append_nil]
    exact ⟨holds, rfl⟩
  | cons outcome rest ih =>
    obtain ⟨next, going, step⟩ := collect_step outcome holds
    obtain ⟨kept, reported⟩ := ih going
    rw [step, diagnosticsBehind_cons, List.append_cons, ← reported]
    exact ⟨kept, rfl⟩

/-- Every outcome that ends makes the table larger by one object or gives one diagnostic. -/
theorem size_collect (held : Table category) (outcomes : List (Outcome category)) :
    (collect Table.add? held outcomes).1.size + (collect Table.add? held outcomes).2.length =
      held.size + outcomes.countP ends := by
  induction outcomes generalizing held with
  | nil => rfl
  | cons outcome rest ih =>
    obtain ⟨index, result⟩ := outcome
    cases result with
    | error stop =>
      have others := ih held
      cases stop with
      | failed fault =>
        simp only [collect, ends, List.countP_cons, List.length_cons, if_true]
        omega
      | endless =>
        simp only [collect, ends, List.countP_cons, Bool.false_eq_true, if_false]
        exact others
    | ok object =>
      cases added : held.add? object with
      | none =>
        have others := ih held
        simp only [collect, added, ends, List.countP_cons, List.length_cons, if_true]
        omega
      | some larger =>
        have others := ih larger
        have grown := Table.size_of_add? added
        simp only [collect, added, ends, List.countP_cons, if_true]
        omega

end Outcome

namespace CategoryLoad

theorem get?_table_ofOutcomes (outcomes : List (Outcome category)) (id : String) :
    (ofOutcomes outcomes).table.get? id = Outcome.first? outcomes id := by
  rw [ofOutcomes_eq_collect]
  exact (Outcome.collect_behind outcomes Outcome.held_empty).1 id

theorem diagnostics_ofOutcomes (outcomes : List (Outcome category)) :
    (ofOutcomes outcomes).diagnostics = Outcome.diagnostics outcomes := by
  rw [ofOutcomes_eq_collect]
  exact (Outcome.collect_behind outcomes Outcome.held_empty).2

theorem size_ofOutcomes (outcomes : List (Outcome category)) :
    (ofOutcomes outcomes).table.size + (ofOutcomes outcomes).diagnostics.length =
      outcomes.countP Outcome.ends := by
  rw [ofOutcomes_eq_collect, Outcome.size_collect]
  exact Nat.zero_add _

end CategoryLoad
end Storyboard
