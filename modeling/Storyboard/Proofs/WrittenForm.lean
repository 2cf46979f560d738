import Storyboard.Board.Compiled
import Storyboard.Proofs.Result

/-!
# What is written can be read

Attributes, states and stage objects are read back from their written form without its nulls. The
names of the fields of a state are distinct in every category, so each field finds its own value
whatever the order of the fields is. One thing is lost: a time that is infinite or NaN is written as
a null, which is left out, and a state without a time is never shown.
-/
namespace Storyboard

open Json

/-! ## Values without nulls -/

namespace Json

variable {fields : List (String × Json)}

theorem strippedItems_eq_map (items : List Json) : strippedItems items = items.map stripped := by
  induction items with
  | nil => rfl
  | cons item rest ih => rw [strippedItems, ih, List.map_cons]

theorem strippedFields_append (fields rest : List (String × Json)) :
    strippedFields (fields ++ rest) = strippedFields fields ++ strippedFields rest := by
  induction fields with
  | nil => rfl
  | cons field others ih =>
    rw [List.cons_append, strippedFields, strippedFields, ih]
    split <;> rfl

theorem exists_of_mem_strippedFields {field : String × Json}
    (member : field ∈ strippedFields fields) :
    ∃ source ∈ fields, source.2 ≠ .null ∧ field = (source.1, source.2.stripped) := by
  induction fields with
  | nil => cases member
  | cons first rest ih =>
    rw [strippedFields] at member
    split at member
    · obtain ⟨source, inside, kept⟩ := ih member
      exact ⟨source, List.mem_cons_of_mem _ inside, kept⟩
    · next solid =>
      rcases List.mem_cons.1 member with rfl | later
      · exact ⟨first, List.mem_cons_self .., solid, rfl⟩
      · obtain ⟨source, inside, kept⟩ := ih later
        exact ⟨source, List.mem_cons_of_mem _ inside, kept⟩

/-- Under different keys, what is looked up is what stood there, unless it was a null. -/
theorem get?_strippedFields (distinct : (fields.map Prod.fst).Nodup) (key : String) :
    Keyed.get? (strippedFields fields) key = (Keyed.get? fields key).bind fun value =>
      if value = .null then none else some value.stripped := by
  induction fields with
  | nil => rfl
  | cons first rest ih =>
    obtain ⟨k, value⟩ := first
    obtain ⟨fresh, distinct⟩ := List.nodup_cons.1 distinct
    rw [strippedFields, Keyed.get?]
    by_cases here : k = key
    · subst here
      -- no later field has the key of the first one, so nothing takes the place of a null
      have absent : Keyed.get? rest k = none := Keyed.get?_eq_none fun field member same =>
        fresh (List.mem_map.2 ⟨field, member, same⟩)
      rw [if_pos rfl, Option.bind_some]
      split
      · rw [ih distinct, absent, Option.bind_none]
      · rw [Keyed.get?, if_pos rfl]
    · rw [if_neg here]
      split
      · exact ih distinct
      · rw [Keyed.get?, if_neg here]
        exact ih distinct

/-- It does not matter for a look-up whether fields are put in order before they are stripped. -/
theorem get?_strippedFields_ofList (distinct : (fields.map Prod.fst).Nodup) (key : String) :
    Keyed.get? (strippedFields (Keyed.ofList fields)) key =
      Keyed.get? (strippedFields fields) key := by
  have ordered : ((Keyed.ofList fields).map Prod.fst).Nodup :=
    ((Keyed.perm_ofList distinct).map Prod.fst).nodup_iff.2 distinct
  rw [get?_strippedFields ordered, get?_strippedFields distinct, Keyed.get?_ofList]

/-- Stripping an object leaves no null if it leaves none in the fields that it keeps. -/
theorem hasNull_stripped_ofFields
    (clean : ∀ field ∈ fields, field.2 ≠ .null → field.2.stripped.hasNull = false) :
    (ofFields fields).stripped.hasNull = false := by
  refine fieldsHaveNull_eq_false fun field member => ?_
  obtain ⟨source, inside, solid, rfl⟩ := exists_of_mem_strippedFields member
  exact clean source (Keyed.mem_of_mem_ofList inside) solid

theorem hasNull_stripped_arr {items : List Json}
    (clean : ∀ item ∈ items, item.stripped.hasNull = false) :
    (arr items).stripped.hasNull = false := by
  refine itemsHaveNull_eq_false fun item member => ?_
  rw [strippedItems_eq_map] at member
  obtain ⟨source, inside, rfl⟩ := List.mem_map.1 member
  exact clean source inside

/-- Something that may be missing leaves no null behind if what is written for it does not. -/
theorem hasNull_stripped_orNull {α : Type} {write : α → Json} {value : Option α}
    (clean : ∀ x, (write x).stripped.hasNull = false) (solid : orNull write value ≠ .null) :
    (orNull write value).stripped.hasNull = false := by
  cases value with
  | none => exact absurd rfl solid
  | some x => exact clean x

end Json

/-! ## Values -/

namespace Json.Reader

theorem int32_ofJson (n : Int32) : Reader.int32 (.ofJson (.int n.toInt)) = .ok n := by
  simp only [Reader.int32, Draft.ofJson, int32?_toInt]

theorem optional_ofJson {α : Type} {reader : Reader α} {value : Json} {x : α}
    (given : value ≠ .null) (back : reader (.ofJson value) = .ok x) :
    Reader.optional reader (.ofJson value) = .ok (some x) := by
  cases value <;> simp_all [Reader.optional, Draft.ofJson, Except.map]

theorem list_ofJson {α β : Type} {reader : Reader β} {write : α → Json} {result : α → β}
    (back : ∀ x, reader (.ofJson (write x)) = .ok (result x)) (xs : List α) :
    Reader.list reader (.ofJson (.arr (xs.map write))) = .ok (xs.map result) := by
  simp only [Reader.list, Draft.ofJson, Draft.ofItems_eq_map, List.map_map]
  have each : xs.mapM (reader ∘ Draft.ofJson ∘ write) = .ok (xs.map result) :=
    Result.mapM_eq_ok_map fun x _ => back x
  rw [List.mapM_map, each]
  rfl

end Json.Reader

theorem Point.read_toJson (p : Point) : Point.read (.ofJson p.toJson) = .ok p := by
  rfl

namespace FieldKind

theorem read_toJson (kind : FieldKind) (value : kind.Value) :
    kind.read (.ofJson (kind.toAttribute value).toJson) = .ok value := by
  cases kind with
  | real => rfl
  | integer => exact Reader.int32_ofJson value
  | text => rfl
  | flag => rfl
  | points =>
    have back : Reader.list Point.read (.ofJson (.arr (value.map Point.toJson))) =
        .ok (value.map id) := Reader.list_ofJson Point.read_toJson value
    exact back.trans (congrArg _ (List.map_id value))

theorem toJson_ne_null (kind : FieldKind) (value : kind.Value) :
    (kind.toAttribute value).toJson ≠ .null := by
  cases kind <;> simp [toAttribute, Attribute.toJson]

end FieldKind

/-- There is nothing to strip from an attribute. -/
theorem Attribute.stripped_toJson (value : Attribute) : value.toJson.stripped = value.toJson := by
  cases value with
  | points ps =>
    rw [toJson, stripped, strippedItems_eq_map, List.map_map]
    rfl
  | _ => rfl

theorem Attribute.hasNull_toJson (value : Attribute) : value.toJson.hasNull = false := by
  cases value with
  | points ps =>
    refine itemsHaveNull_eq_false fun item member => ?_
    obtain ⟨p, -, rfl⟩ := List.mem_map.1 member
    rfl
  | _ => rfl

/-! ## Rows -/

/-- All fields have their names from a list. -/
def NamedIn (names : List String) (fields : List (String × Json)) : Prop :=
  ∀ field ∈ fields, field.1 ∈ names

theorem NamedIn.append {names others : List String} {fields rest : List (String × Json)}
    (first : NamedIn names fields) (second : NamedIn others rest) :
    NamedIn (names ++ others) (fields ++ rest) := by
  intro field member
  rcases List.mem_append.1 member with inside | inside
  · exact List.mem_append_left _ (first field inside)
  · exact List.mem_append_right _ (second field inside)

theorem NamedIn.get?_eq_none {names : List String} {fields : List (String × Json)} {name : String}
    (named : NamedIn names fields) (absent : name ∉ names) : Keyed.get? fields name = none :=
  Keyed.get?_eq_none fun field member same => absent (same ▸ named field member)

namespace Row

variable {fields : List Field}

/-- The fields of a row that are written and are not null. -/
def written (row : Row fields) : List (String × Json) :=
  row.entries.map fun entry => (entry.1, entry.2.toJson)

theorem strippedFields_toFields (row : Row fields) : strippedFields row.toFields = row.written := by
  induction fields with
  | nil => rfl
  | cons field rest ih =>
    obtain ⟨value, row⟩ := row
    have later := ih row
    rw [toFields, strippedFields, later, written]
    cases value with
    | none => rfl
    | some v =>
      rw [orNull, if_neg (field.kind.toJson_ne_null v), Attribute.stripped_toJson]
      rfl

theorem map_fst_toFields (row : Row fields) :
    row.toFields.map Prod.fst = fields.map Field.name := by
  induction fields with
  | nil => rfl
  | cons field rest ih => exact congrArg (field.name :: ·) (ih row.2)

theorem hasNull_stripped_toFields {row : Row fields} {field : String × Json}
    (member : field ∈ row.toFields) (solid : field.2 ≠ .null) :
    field.2.stripped.hasNull = false := by
  induction fields with
  | nil => cases member
  | cons first rest ih =>
    obtain ⟨value, row⟩ := row
    rcases List.mem_cons.1 member with rfl | later
    · refine hasNull_stripped_orNull (fun v => ?_) solid
      rw [Attribute.stripped_toJson]
      exact Attribute.hasNull_toJson _
    · exact ih later

theorem name_mem_of_mem_entries {row : Row fields} {entry : String × Attribute}
    (member : entry ∈ row.entries) : entry.1 ∈ fields.map Field.name := by
  induction fields with
  | nil => cases member
  | cons field rest ih =>
    obtain ⟨value, row⟩ := row
    rcases List.mem_append.1 member with first | later
    · obtain ⟨v, -, rfl⟩ := Option.map_eq_some_iff.1 (Option.mem_toList.1 first)
      exact List.mem_cons_self ..
    · exact List.mem_cons_of_mem _ (ih later)

theorem namedIn_written (row : Row fields) : NamedIn (fields.map Field.name) row.written := by
  intro entry member
  obtain ⟨given, inside, rfl⟩ := List.mem_map.1 member
  exact name_mem_of_mem_entries inside

theorem get?_entries_eq_none {row : Row fields} {name : String}
    (absent : name ∉ fields.map Field.name) : Keyed.get? row.entries name = none :=
  Keyed.get?_eq_none fun _ member same => absent (same ▸ name_mem_of_mem_entries member)

/-- A row is read from any place where its values are found under their names. -/
theorem read_of_found {row : Row fields} (distinct : (fields.map Field.name).Nodup)
    {given : String → Option Draft}
    (found : ∀ field ∈ fields, given field.name =
      (Keyed.get? row.entries field.name).map fun value => Draft.ofJson value.toJson) :
    Row.read given fields = .ok row := by
  induction fields with
  | nil => rfl
  | cons field rest ih =>
    obtain ⟨value, row⟩ := row
    obtain ⟨fresh, distinct⟩ := List.nodup_cons.1 distinct
    have others : Row.read given rest = .ok row := by
      refine ih distinct fun other inside => ?_
      -- an entry of the first field does not stand under the name of another one
      have differs : field.name ≠ other.name := fun same =>
        fresh (List.mem_map.2 ⟨other, inside, same.symm⟩)
      rw [found other (List.mem_cons_of_mem _ inside), entries, Keyed.get?_append]
      cases value <;> simp [Keyed.get?, differs]
    have first := found field (List.mem_cons_self ..)
    rw [entries, Keyed.get?_append, get?_entries_eq_none fresh, Option.or_none] at first
    cases value with
    | none =>
      have absent : given field.name = none := by simpa [Keyed.get?] using first
      simp only [read, absent, others]
      rfl
    | some v =>
      have present : given field.name = some (.ofJson (field.kind.toAttribute v).toJson) := by
        simpa [Keyed.get?] using first
      have back := Reader.optional_ofJson (field.kind.toJson_ne_null v) (field.kind.read_toJson v)
      simp only [read, present, back, others]
      rfl

/-- A row is read from among other fields if no name is used twice. -/
theorem read_amid (row : Row fields) {before after : List (String × Json)}
    {front back : List String} (inFront : NamedIn front before) (inBack : NamedIn back after)
    (distinct : (front ++ fields.map Field.name ++ back).Nodup) {given : String → Option Draft}
    (found : ∀ name, given name =
      (Keyed.get? (before ++ row.written ++ after) name).map Draft.ofJson) :
    Row.read given fields = .ok row := by
  obtain ⟨frontOwn, -, backApart⟩ := List.nodup_append.1 distinct
  obtain ⟨-, own, frontApart⟩ := List.nodup_append.1 frontOwn
  refine read_of_found own fun field inside => ?_
  -- what stands around the row has other names, so each name leads to an entry of the row
  have name : field.name ∈ fields.map Field.name := List.mem_map_of_mem inside
  have notBefore : Keyed.get? before field.name = none :=
    inFront.get?_eq_none fun member => frontApart _ member _ name rfl
  have notAfter : Keyed.get? after field.name = none :=
    inBack.get?_eq_none fun member => backApart _ (List.mem_append_right _ name) _ member rfl
  rw [found, Keyed.get?_append, Keyed.get?_append, notBefore, notAfter, written, Keyed.get?_map,
    Option.none_or, Option.or_none, Option.map_map]
  rfl

end Row

/-! ## States -/

namespace Category

def timeNames : List String := ["time", "relative_time", "add_time"]

/-- The names of all fields that a state of the category may have. -/
def stateNames (category : Category) : List String :=
  timeNames ++ category.ownFields.map Field.name ++ commonFields.map Field.name ++
    category.placement.map Field.name

theorem stateNames_nodup (category : Category) : category.stateNames.Nodup := by
  cases category <;> decide +kernel

end Category

namespace State

variable {category : Category}

/-- The state that is read from the written form of a state. -/
def settled (state : State category) : State category :=
  { state with time := if state.time.isFinite then state.time else never }

theorem settled_eq_self {state : State category} (finite : state.time.isFinite = true) :
    state.settled = state := by
  rw [settled, if_pos finite]

/-- The times of a state that are written and are not null. -/
def writtenTimes (state : State category) : List (String × Json) :=
  ((Finite64.ofBinary? state.time).map fun t => ("time", Json.real t)).toList ++
    (state.relativeTime.map fun t => ("relative_time", Json.real t)).toList ++
    (state.addTime.map fun t => ("add_time", Json.real t)).toList

/-- The fields of a state that are written and are not null. -/
def written (state : State category) : List (String × Json) :=
  state.writtenTimes ++ state.attributes.own.written ++ state.attributes.common.written ++
    state.attributes.placement.written

theorem strippedFields_toFields (state : State category) :
    strippedFields state.toFields = state.written := by
  have times : strippedFields
      [("time", orNull Json.real (Finite64.ofBinary? state.time)),
       ("relative_time", orNull Json.real state.relativeTime),
       ("add_time", orNull Json.real state.addTime)] = state.writtenTimes := by
    rw [writtenTimes]
    cases Finite64.ofBinary? state.time <;> cases state.relativeTime <;> cases state.addTime <;> rfl
  rw [toFields, strippedFields_append, times, Attributes.toFields, strippedFields_append,
    strippedFields_append, Row.strippedFields_toFields, Row.strippedFields_toFields,
    Row.strippedFields_toFields, written, List.append_assoc, List.append_assoc, List.append_assoc]

theorem map_fst_toFields (state : State category) :
    state.toFields.map Prod.fst = category.stateNames := by
  rw [toFields, Attributes.toFields, List.map_append, List.map_append, List.map_append,
    Row.map_fst_toFields, Row.map_fst_toFields, Row.map_fst_toFields, Category.stateNames,
    List.append_assoc, List.append_assoc, List.append_assoc]
  rfl

theorem namedIn_writtenTimes (state : State category) :
    NamedIn Category.timeNames state.writtenTimes := by
  intro entry member
  simp only [writtenTimes, List.mem_append, Option.mem_toList, Option.map_eq_some_iff] at member
  rcases member with (⟨t, -, rfl⟩ | ⟨t, -, rfl⟩) | ⟨t, -, rfl⟩ <;> simp [Category.timeNames]

/-- What is found under the name of a time is a time. -/
theorem get?_written_time (state : State category) {name : String}
    (isTime : name ∈ Category.timeNames) :
    Keyed.get? state.written name = Keyed.get? state.writtenTimes name := by
  -- the attributes have other names than the times, so they are never found under one
  have rest : NamedIn (category.ownFields.map Field.name ++ (commonFields.map Field.name ++
      category.placement.map Field.name)) (state.attributes.own.written ++
        (state.attributes.common.written ++ state.attributes.placement.written)) :=
    (Row.namedIn_written _).append ((Row.namedIn_written _).append (Row.namedIn_written _))
  have distinct := category.stateNames_nodup
  simp only [Category.stateNames, List.append_assoc] at distinct
  have absent := rest.get?_eq_none fun member =>
    (List.nodup_append.1 distinct).2.2 _ isTime _ member rfl
  rw [written, List.append_assoc, List.append_assoc, Keyed.get?_append, absent, Option.or_none]

theorem givenIn_ofFields (fields : List (String × Json)) (name : String) :
    givenIn (Draft.ofFields fields) name = (Keyed.get? fields name).map Draft.ofJson := by
  induction fields with
  | nil => rfl
  | cons field rest ih =>
    obtain ⟨key, value⟩ := field
    simp only [givenIn] at ih
    by_cases same : key = name <;> simp [givenIn, Draft.ofFields, Keyed.get?, same, ih]

/-- What a reader of the written state is given under a name. -/
def given (state : State category) : String → Option Draft :=
  givenIn (Draft.ofFields (strippedFields (Keyed.ofList state.toFields)))

theorem given_eq (state : State category) (name : String) :
    state.given name = (Keyed.get? state.written name).map Draft.ofJson := by
  have distinct : (state.toFields.map Prod.fst).Nodup :=
    state.map_fst_toFields ▸ category.stateNames_nodup
  rw [given, givenIn_ofFields, get?_strippedFields_ofList distinct, strippedFields_toFields]

theorem read_given_own (state : State category) :
    Row.read state.given category.ownFields = .ok state.attributes.own := by
  have commons := state.attributes.common.namedIn_written
  have placements := state.attributes.placement.namedIn_written
  refine Row.read_amid _ state.namedIn_writtenTimes (commons.append placements) ?_ fun name => ?_
  · rw [← List.append_assoc]
    exact category.stateNames_nodup
  · rw [given_eq, written, List.append_assoc]

theorem read_given_common (state : State category) :
    Row.read state.given commonFields = .ok state.attributes.common := by
  have owns := state.attributes.own.namedIn_written
  have placements := state.attributes.placement.namedIn_written
  refine Row.read_amid _ (state.namedIn_writtenTimes.append owns) placements
    category.stateNames_nodup fun name => ?_
  rw [given_eq, written]

theorem read_given_placement (state : State category) :
    Row.read state.given category.placement = .ok state.attributes.placement := by
  have owns := state.attributes.own.namedIn_written
  have commons := state.attributes.common.namedIn_written
  have nothing : NamedIn [] ([] : List (String × Json)) := fun _ member => nomatch member
  refine Row.read_amid _ ((state.namedIn_writtenTimes.append owns).append commons) nothing ?_
    fun name => ?_
  · rw [List.append_nil]
    exact category.stateNames_nodup
  · rw [given_eq, written, List.append_nil]

theorem given_time (state : State category) :
    state.given "time" = (Finite64.ofBinary? state.time).map fun t => .ofJson (.real t) := by
  rw [given_eq, get?_written_time state (by simp [Category.timeNames]), writtenTimes]
  simp [Keyed.get?_append, Keyed.get?_toList_map, Function.comp_def]

theorem given_relativeTime (state : State category) :
    state.given "relative_time" = state.relativeTime.map fun t => .ofJson (.real t) := by
  rw [given_eq, get?_written_time state (by simp [Category.timeNames]), writtenTimes]
  simp [Keyed.get?_append, Keyed.get?_toList_map, Function.comp_def]

theorem given_addTime (state : State category) :
    state.given "add_time" = state.addTime.map fun t => .ofJson (.real t) := by
  rw [given_eq, get?_written_time state (by simp [Category.timeNames]), writtenTimes]
  simp [Keyed.get?_append, Keyed.get?_toList_map, Function.comp_def]

/-- A written state is read back, but for a time that is no finite number. -/
theorem read_toJson (state : State category) :
    State.read category (.ofJson state.toJson.stripped) = .ok state.settled := by
  have form : Draft.ofJson state.toJson.stripped =
      .obj (Draft.ofFields (strippedFields (Keyed.ofList state.toFields))) true := rfl
  have own := state.read_given_own
  have common := state.read_given_common
  have placement := state.read_given_placement
  have time := state.given_time
  have relativeTime := state.given_relativeTime
  have addTime := state.given_addTime
  -- every field finds what was written for it; only the time is left to look at
  rw [given] at own common placement time relativeTime addTime
  simp only [form, read, own, common, placement, time, relativeTime, addTime]
  by_cases finite : state.time.isFinite = true
  · rw [settled, if_pos finite, Finite64.ofBinary?, dif_pos finite]
    cases state.relativeTime <;> cases state.addTime <;> rfl
  · rw [settled, if_neg finite, Finite64.ofBinary?, dif_neg finite]
    cases state.relativeTime <;> cases state.addTime <;> rfl

theorem hasNull_toJson (state : State category) : state.toJson.stripped.hasNull = false := by
  refine hasNull_stripped_ofFields fun field member solid => ?_
  simp only [toFields, Attributes.toFields, List.mem_append, List.mem_cons, List.not_mem_nil,
    or_false] at member
  rcases member with (rfl | rfl | rfl) | (own | common) | placement
  · exact hasNull_stripped_orNull (fun _ => rfl) solid
  · exact hasNull_stripped_orNull (fun _ => rfl) solid
  · exact hasNull_stripped_orNull (fun _ => rfl) solid
  · exact Row.hasNull_stripped_toFields own solid
  · exact Row.hasNull_stripped_toFields common solid
  · exact Row.hasNull_stripped_toFields placement solid

end State

/-! ## Stage objects -/

namespace StageObject

variable {category : Category}

/-- The object that is read from the written form of an object. -/
def settled (object : StageObject category) : StageObject category :=
  { object with states := object.states.map State.settled }

/-- The written form without nulls, its fields in order. -/
theorem stripped_toJson (object : StageObject category) :
    object.toJson.stripped = .obj ([("id", .str object.id)] ++
      (object.parentId.map fun id => ("parent_id", Json.str id)).toList ++
      [("states", .arr (object.states.map fun state => state.toJson.stripped))] ++
      (object.targetId.map fun id => ("target_id", Json.str id)).toList) := by
  obtain ⟨id, targetId, parentId, states⟩ := object
  have ordered : StageObject.toJson ⟨id, targetId, parentId, states⟩ =
      .obj [("id", .str id), ("parent_id", orNull Json.str parentId),
        ("states", .arr (states.map State.toJson)), ("target_id", orNull Json.str targetId)] := by
    simp only [toJson, Json.ofFields, Keyed.ofList, Keyed.overlay, Keyed.insert, List.foldr_cons,
      List.foldr_nil, String.reduceEq, String.reduceLT, reduceIte]
  have items : strippedItems (states.map State.toJson) =
      states.map fun state => state.toJson.stripped := by
    rw [strippedItems_eq_map, List.map_map]
    rfl
  rw [ordered]
  cases targetId <;> cases parentId <;>
    simp [stripped, strippedFields, orNull, items]

/-- A written object is read back, each state with its settled time. -/
theorem read_toJson (object : StageObject category) :
    StageObject.read category (.ofJson object.toJson.stripped) = .ok object.settled := by
  rw [stripped_toJson]
  obtain ⟨id, targetId, parentId, states⟩ := object
  have back : Reader.list (State.read category)
      (.arr (Draft.ofItems (states.map fun state => state.toJson.stripped)) true) =
        .ok (states.map State.settled) :=
    Reader.list_ofJson State.read_toJson states
  -- a key that is left out leaves its cell empty, and an empty cell is read as nothing
  cases targetId <;> cases parentId <;>
    simp [StageObject.read, Draft.ofJson, Draft.ofFields, Record.read, columns, Cells.putAll,
      Cells.put, Cells.empty, Reader.text, Reader.optional, bind, Except.bind, Except.map, back]
  all_goals rfl

theorem hasNull_toJson (object : StageObject category) :
    object.toJson.stripped.hasNull = false := by
  refine hasNull_stripped_ofFields fun field member solid => ?_
  simp only [List.mem_cons, List.not_mem_nil, or_false] at member
  rcases member with rfl | rfl | rfl | rfl
  · rfl
  · exact hasNull_stripped_orNull (fun _ => rfl) solid
  · exact hasNull_stripped_orNull (fun _ => rfl) solid
  · refine hasNull_stripped_arr fun item inside => ?_
    obtain ⟨state, -, rfl⟩ := List.mem_map.1 inside
    exact state.hasNull_toJson

end StageObject
end Storyboard
