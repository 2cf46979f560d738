import Storyboard.Declaration.Selector
import Storyboard.Proofs.ChartNotes
import Storyboard.Proofs.Result

/-!
# What selectors select

A selector is read from the fields of a spec one by one, and each field that is given asks one
thing of a note. The ids of the notes that a selector admits come in increasing order, with one for
each note.

Main statements: `Selector.exists_ofFields_iff`, `Selector.selects_of_ofFields`.
-/
namespace Storyboard

/-! ## Integers of 32 bits -/

/-- A value is an integer of 32 bits. -/
def Json.IsInt32 (value : Json) : Prop := ∃ n : Int32, value = .int n.toInt

/-- A reader of values reads integers of 32 bits and nothing else. -/
def ReadsInt32 (read : Json → Except Fault Int32) : Prop :=
  ∀ value n, read value = .ok n ↔ value = .int n.toInt

namespace ReadsInt32

variable {read : Json → Except Fault Int32}

theorem exists_iff (exact : ReadsInt32 read) {value : Json} :
    (∃ n, read value = .ok n) ↔ value.IsInt32 :=
  exists_congr (exact value)

theorem mapM_eq_ok_iff (exact : ReadsInt32 read) {items : List Json} {ns : List Int32} :
    items.mapM read = .ok ns ↔ items = ns.map fun n => .int n.toInt :=
  Result.mapM_eq_ok_iff_eq_map exact

theorem exists_mapM_iff (exact : ReadsInt32 read) {items : List Json} :
    (∃ ns, items.mapM read = .ok ns) ↔ ∀ item ∈ items, item.IsInt32 := by
  simp only [Result.exists_mapM_eq_ok_iff, exact.exists_iff]

end ReadsInt32

namespace Selector

variable {spec : Node} {selector : Selector}

/-! ## Specs -/

/-- A spec gives a field that cannot be read. -/
inductive Refused (spec : Node) : Prop
  | integer {field : String} {value : Json} (one : field ∈ ["start", "end", "direction"])
      (given : Keyed.get? spec field = some value) (other : ¬ value.IsInt32)
  | number {field : String} {value : Json} (one : field ∈ ["min_x", "max_x"])
      (given : Keyed.get? spec field = some value) (other : value.real? = none)
  | kind {value : Json} (given : Keyed.get? spec "type" = some value) (present : value ≠ .null)
      (single : ∀ items, value ≠ .arr items) (other : ¬ value.IsInt32)
  | element {items : List Json} {item : Json} (given : Keyed.get? spec "type" = some (.arr items))
      (member : item ∈ items) (other : ¬ item.IsInt32)

/-- What the field for the kind asks for: one code or one of several, and without the field one of
the known kinds. -/
def AsksKind (value : Option Json) (kind : Int32) : Prop :=
  match value with
  | none | some .null => ∃ known : NoteKind, known.code = kind
  | some (.arr items) => .int kind.toInt ∈ items
  | some value => value = .int kind.toInt

/-- The place in a field, or without the field the outermost place on its side. -/
def edge (spec : Node) (field : String) (outermost : Binary64) : Binary64 :=
  (((Keyed.get? spec field).bind Json.real?).map Finite64.toBinary).getD outermost

/-- What the fields of a spec ask of a note. -/
structure Asks (spec : Node) (note : Note) : Prop where
  kind : AsksKind (Keyed.get? spec "type") note.kind
  first : ∀ id : NoteId, Keyed.get? spec "start" = some (.int id.toInt) → id ≤ note.id
  last : ∀ id : NoteId, Keyed.get? spec "end" = some (.int id.toInt) → note.id ≤ id
  left : (edge spec "min_x" (.largest true)).le note.x = true
  right : note.x.le (edge spec "max_x" (.largest false)) = true
  direction : ∀ direction : Int32, Keyed.get? spec "direction" = some (.int direction.toInt) →
    note.direction = direction

/-- The ids of the notes of a chart that do what a spec asks, one for each note and in increasing
order. -/
structure Selects (spec : Node) (chart : Chart) (ids : List NoteId) : Prop where
  exact : ∃ admitted : Note → Bool, (∀ note, admitted note = true ↔ Asks spec note) ∧
    ids = (chart.notes.filter admitted).map Note.id
  ascending : ids.Pairwise (· ≤ ·)

/-! ## Reading fields -/

theorem integerOf_reads (field : String) : ReadsInt32 (integerOf field) := by
  intro value n
  rw [← Json.int32?_eq_some_iff, integerOf]
  cases value.int32? with
  | none => simp
  | some m => simp

theorem numberOf_eq_ok_iff {field : String} {value : Json} {x : Binary64} :
    numberOf field value = .ok x ↔ value.real?.map Finite64.toBinary = some x := by
  rw [numberOf]
  cases value.real? with
  | none => simp
  | some y => simp [Finite64.toBinary]

theorem exists_numberOf_iff {field : String} {value : Json} :
    (∃ x, numberOf field value = .ok x) ↔ value.real? ≠ none := by
  rw [numberOf]
  cases value.real? with
  | none => simp
  | some y => simp

section

variable {α : Type} {field : String} {default : α} {read : String → Json → Except Fault α}

theorem fieldOr_eq_ok_iff {a : α} : fieldOr spec field default read = .ok a ↔
    Keyed.get? spec field = none ∧ a = default ∨
      ∃ value, Keyed.get? spec field = some value ∧ read field value = .ok a := by
  rw [fieldOr]
  cases Keyed.get? spec field with
  | none => simp [eq_comm]
  | some value => simp

theorem exists_fieldOr_iff : (∃ a, fieldOr spec field default read = .ok a) ↔
    ∀ value, Keyed.get? spec field = some value → ∃ a, read field value = .ok a := by
  rw [fieldOr]
  cases Keyed.get? spec field with
  | none => simp
  | some value => simp

end

theorem kindsOf_eq_ok_iff {value : Option Json} {kinds : List Int32} :
    kindsOf value = .ok kinds ↔
      ((value = none ∨ value = some .null) ∧ kinds = all.kinds) ∨
      value = some (.arr (kinds.map fun code => .int code.toInt)) ∨
      ∃ code : Int32, value = some (.int code.toInt) ∧ kinds = [code] := by
  unfold kindsOf
  split
  · simp [eq_comm]
  · simp [eq_comm]
  · simp [(integerOf_reads "type").mapM_eq_ok_iff]
  · next given present single =>
    rw [Result.bind_eq_ok_iff]
    simp only [integerOf_reads "type" _ _]
    constructor
    · rintro ⟨code, rfl, same⟩
      cases same
      exact .inr (.inr ⟨code, rfl, rfl⟩)
    · rintro (⟨absent | null, _⟩ | listed | ⟨code, same, rfl⟩)
      · cases absent
      · exact absurd (Option.some.inj null) present
      · exact absurd (Option.some.inj listed) (single _)
      · exact ⟨code, Option.some.inj same, rfl⟩

theorem ofFields_eq_ok_iff : ofFields spec = .ok selector ↔
    fieldOr spec "start" all.first integerOf = .ok selector.first ∧
    fieldOr spec "end" all.last integerOf = .ok selector.last ∧
    fieldOr spec "direction" none (fun field value => (integerOf field value).map some) =
      .ok selector.direction ∧
    fieldOr spec "min_x" all.minX numberOf = .ok selector.minX ∧
    fieldOr spec "max_x" all.maxX numberOf = .ok selector.maxX ∧
    kindsOf (Keyed.get? spec "type") = .ok selector.kinds := by
  constructor
  · intro read
    obtain ⟨first, firstRead, read⟩ := Result.bind_eq_ok_iff.1 read
    obtain ⟨last, lastRead, read⟩ := Result.bind_eq_ok_iff.1 read
    obtain ⟨direction, directionRead, read⟩ := Result.bind_eq_ok_iff.1 read
    obtain ⟨minX, minRead, read⟩ := Result.bind_eq_ok_iff.1 read
    obtain ⟨maxX, maxRead, read⟩ := Result.bind_eq_ok_iff.1 read
    obtain ⟨kinds, kindsRead, same⟩ := Result.bind_eq_ok_iff.1 read
    cases same
    exact ⟨firstRead, lastRead, directionRead, minRead, maxRead, kindsRead⟩
  · rintro ⟨first, last, direction, minX, maxX, kinds⟩
    rw [ofFields, first, last, direction, minX, maxX, kinds]
    rfl

/-! ## Accepted specs -/

theorem exists_kindsOf_iff {value : Option Json} : (∃ kinds, kindsOf value = .ok kinds) ↔
    (∀ given, value = some given → given ≠ .null → (∀ items, given ≠ .arr items) →
      given.IsInt32) ∧
    ∀ items, value = some (.arr items) → ∀ item ∈ items, item.IsInt32 := by
  constructor
  · rintro ⟨kinds, read⟩
    rcases kindsOf_eq_ok_iff.1 read with ⟨rfl | rfl, _⟩ | rfl | ⟨code, rfl, _⟩
    · exact ⟨nofun, nofun⟩
    · exact ⟨fun given same present => absurd (Option.some.inj same).symm present, nofun⟩
    · constructor
      · rintro _ ⟨⟩ _ single
        exact absurd rfl (single _)
      · rintro _ ⟨⟩ item member
        obtain ⟨code, _, rfl⟩ := List.mem_map.1 member
        exact ⟨code, rfl⟩
    · constructor
      · rintro _ ⟨⟩ _ _
        exact ⟨code, rfl⟩
      · nofun
  · rintro ⟨one, several⟩
    unfold kindsOf
    split
    · exact ⟨_, rfl⟩
    · exact ⟨_, rfl⟩
    · next items =>
      exact (integerOf_reads "type").exists_mapM_iff.2 (several items rfl)
    · next given present single =>
      obtain ⟨code, read⟩ := (integerOf_reads "type").exists_iff.2 (one given rfl present single)
      exact ⟨[code], by rw [read]; rfl⟩

theorem exists_direction_iff : (∃ direction, fieldOr spec "direction" none
    (fun field value => (integerOf field value).map some) = .ok direction) ↔
    ∀ value, Keyed.get? spec "direction" = some value → value.IsInt32 := by
  rw [exists_fieldOr_iff]
  simp only [Result.map_eq_ok_iff, ← (integerOf_reads "direction").exists_iff]
  grind

/-- A selector can be read unless its spec gives a field that cannot. -/
theorem exists_ofFields_iff : (∃ selector, ofFields spec = .ok selector) ↔ ¬ Refused spec := by
  have integers (field : String) (default : Int32) :
      (∃ n, fieldOr spec field default integerOf = .ok n) ↔
        ∀ value, Keyed.get? spec field = some value → value.IsInt32 := by
    simp only [exists_fieldOr_iff, (integerOf_reads field).exists_iff]
  have numbers (field : String) (default : Binary64) :
      (∃ x, fieldOr spec field default numberOf = .ok x) ↔
        ∀ value, Keyed.get? spec field = some value → value.real? ≠ none := by
    simp only [exists_fieldOr_iff, exists_numberOf_iff]
  constructor
  · rintro ⟨selector, read⟩ refused
    -- all fields have been read, and among them the one that cannot be
    obtain ⟨first, last, direction, minX, maxX, kinds⟩ := ofFields_eq_ok_iff.1 read
    cases refused with
    | integer one given other =>
      apply other
      simp only [List.mem_cons, List.not_mem_nil, or_false] at one
      rcases one with rfl | rfl | rfl
      · exact (integers _ _).1 ⟨_, first⟩ _ given
      · exact (integers _ _).1 ⟨_, last⟩ _ given
      · exact exists_direction_iff.1 ⟨_, direction⟩ _ given
    | number one given other =>
      simp only [List.mem_cons, List.not_mem_nil, or_false] at one
      rcases one with rfl | rfl
      · exact (numbers _ _).1 ⟨_, minX⟩ _ given other
      · exact (numbers _ _).1 ⟨_, maxX⟩ _ given other
    | kind given present single other =>
      exact other ((exists_kindsOf_iff.1 ⟨_, kinds⟩).1 _ given present single)
    | element given member other =>
      exact other ((exists_kindsOf_iff.1 ⟨_, kinds⟩).2 _ given _ member)
  · intro accepted
    have integer (field : String) (one : field ∈ ["start", "end", "direction"]) : ∀ value,
        Keyed.get? spec field = some value → value.IsInt32 :=
      fun value given => not_not.1 fun other => accepted (.integer one given other)
    have number (field : String) (one : field ∈ ["min_x", "max_x"]) : ∀ value,
        Keyed.get? spec field = some value → value.real? ≠ none :=
      fun value given other => accepted (.number one given other)
    obtain ⟨first, firstRead⟩ := (integers "start" all.first).2 (integer _ (by decide))
    obtain ⟨last, lastRead⟩ := (integers "end" all.last).2 (integer _ (by decide))
    obtain ⟨direction, directionRead⟩ := exists_direction_iff.2 (integer _ (by decide))
    obtain ⟨minX, minRead⟩ := (numbers "min_x" all.minX).2 (number _ (by decide))
    obtain ⟨maxX, maxRead⟩ := (numbers "max_x" all.maxX).2 (number _ (by decide))
    obtain ⟨kinds, kindsRead⟩ := exists_kindsOf_iff.2
      ⟨fun value given present single => not_not.1 fun other =>
          accepted (.kind given present single other),
        fun items given item member => not_not.1 fun other =>
          accepted (.element given member other)⟩
    exact ⟨⟨first, last, direction, minX, maxX, kinds⟩, ofFields_eq_ok_iff.2
      ⟨firstRead, lastRead, directionRead, minRead, maxRead, kindsRead⟩⟩

/-! ## Admitted notes -/

theorem forall_given_iff (allowed : Int32 → Prop) {field : String} {default n : Int32}
    (read : fieldOr spec field default integerOf = .ok n) (free : allowed default) :
    allowed n ↔ ∀ m : Int32, Keyed.get? spec field = some (.int m.toInt) → allowed m := by
  rcases fieldOr_eq_ok_iff.1 read with ⟨absent, rfl⟩ | ⟨value, given, read⟩
  · rw [absent]
    exact ⟨fun _ => nofun, fun _ => free⟩
  · rw [(integerOf_reads _ _ _).1 read] at given
    rw [given]
    constructor
    · rintro holds m same
      cases Int32.toInt_inj.1 (Json.int.inj (Option.some.inj same))
      exact holds
    · exact fun holds => holds n rfl

theorem eq_edge {field : String} {outermost x : Binary64}
    (read : fieldOr spec field outermost numberOf = .ok x) : x = edge spec field outermost := by
  rcases fieldOr_eq_ok_iff.1 read with ⟨absent, rfl⟩ | ⟨value, given, read⟩
  · rw [edge, absent]
    rfl
  · rw [edge, given, Option.bind_some, numberOf_eq_ok_iff.1 read, Option.getD_some]

theorem all_direction_iff {direction : Option Int32} {own : Int32}
    (read : fieldOr spec "direction" none (fun field value => (integerOf field value).map some) =
      .ok direction) :
    direction.all (· == own) = true ↔
      ∀ asked : Int32, Keyed.get? spec "direction" = some (.int asked.toInt) → own = asked := by
  rcases fieldOr_eq_ok_iff.1 read with ⟨absent, rfl⟩ | ⟨value, given, read⟩
  · rw [absent]
    exact ⟨fun _ => nofun, fun _ => rfl⟩
  · obtain ⟨n, integer, rfl⟩ := Result.map_eq_ok_iff.1 read
    rw [(integerOf_reads _ _ _).1 integer] at given
    rw [given, Option.all_some, beq_iff_eq]
    constructor
    · rintro rfl m same
      exact Int32.toInt_inj.1 (Json.int.inj (Option.some.inj same))
    · exact fun holds => (holds n rfl).symm

theorem mem_kinds_iff {value : Option Json} {kinds : List Int32} {kind : Int32}
    (read : kindsOf value = .ok kinds) : kind ∈ kinds ↔ AsksKind value kind := by
  have int_inj (a b : Int32) : Json.int a.toInt = .int b.toInt ↔ a = b := by
    rw [Json.int.injEq, Int32.toInt_inj]
  have known : kind ∈ all.kinds ↔ ∃ known : NoteKind, known.code = kind := by
    rw [all, List.mem_map]
    refine exists_congr fun known => and_iff_right ?_
    cases known <;> decide
  rcases kindsOf_eq_ok_iff.1 read with ⟨rfl | rfl, rfl⟩ | rfl | ⟨code, rfl, rfl⟩
  · exact known
  · exact known
  · simp [AsksKind, int_inj]
  · rw [List.mem_singleton, eq_comm, ← int_inj]
    exact Iff.rfl

theorem admits_iff (read : ofFields spec = .ok selector) (note : Note) :
    selector.admits note = true ↔ Asks spec note := by
  obtain ⟨first, last, direction, minX, maxX, kinds⟩ := ofFields_eq_ok_iff.1 read
  -- where a bound is not given, the note is within the bound that stands for it
  have atLeast := forall_given_iff (· ≤ note.id) first (Int32.minValue_le note.id)
  have atMost := forall_given_iff (note.id ≤ ·) last (Int32.le_maxValue note.id)
  simp only [admits, Bool.and_eq_true, decide_eq_true_eq, List.contains_iff_mem, and_assoc,
    mem_kinds_iff kinds, all_direction_iff direction, eq_edge minX, eq_edge maxX, atLeast, atMost]
  constructor
  · rintro ⟨kind, first, last, left, right, direction⟩
    exact ⟨kind, first, last, left, right, direction⟩
  · rintro ⟨kind, first, last, left, right, direction⟩
    exact ⟨kind, first, last, left, right, direction⟩

/-- What a selector selects is what its spec asks for. -/
theorem selects_of_ofFields (read : ofFields spec = .ok selector) (chart : Chart) :
    Selects spec chart (selector.ids chart) where
  exact := ⟨selector.admits, admits_iff read, rfl⟩
  ascending := chart.pairwise_ids_filter selector.admits

end Selector
end Storyboard
