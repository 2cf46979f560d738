import Mathlib.Data.List.Induction
import Storyboard.Proofs.Walk
import Storyboard.Proofs.WrittenForm

/-!
# Inherited attributes

A state starts from a copy of the state in front of it, and what its declaration gives is laid over
that copy. Read backwards, an attribute comes from the nearest declaration on the way back that
gives it: the declaration itself, its siblings in front from the last to the first, then its parent,
the siblings in front of the parent, and so on up to the root. The way ends behind a declaration
that resets. What is nested in a sibling is not on the way.
-/
namespace Storyboard

open Json

/-! ## Rows -/

namespace Row

variable {fields : List Field}

theorem entries_blank (fields : List Field) : (blank fields).entries = [] := by
  induction fields with
  | nil => rfl
  | cons field rest ih =>
    rw [blank, entries, ih]
    rfl

/-- A row is laid over another field by field: a named field takes the upper value, if there is
one, and any other field keeps the lower one. -/
theorem overlay_cons {field : Field} (names : List String) (lower upper : Row (field :: fields)) :
    lower.overlay names upper =
      ((if field.name ∈ names then upper.1.or lower.1 else lower.1,
        overlay names lower.2 upper.2) : Row (field :: fields)) := by
  obtain ⟨given, above⟩ := upper
  induction names generalizing lower with
  | nil => rfl
  | cons name rest ih =>
    obtain ⟨value, below⟩ := lower
    refine (ih _).trans (Prod.ext ?_ rfl)
    -- a field that is named again takes the same value again
    by_cases here : field.name = name
    · simp [replace, here]
      cases given <;> simp
    · simp [replace, here]

theorem overlay_congr {names others : List String}
    (same : ∀ field ∈ fields, field.name ∈ names ↔ field.name ∈ others) (lower upper : Row fields) :
    lower.overlay names upper = lower.overlay others upper := by
  induction fields with
  | nil => rfl
  | cons field rest ih =>
    obtain ⟨first, later⟩ := List.forall_mem_cons.1 same
    rw [overlay_cons, overlay_cons, ih later, if_congr first rfl rfl]

theorem get?_overlay (distinct : (fields.map Field.name).Nodup) {names : List String}
    (covered : ∀ field ∈ fields, field.name ∈ names) (lower upper : Row fields) (name : String) :
    Keyed.get? (lower.overlay names upper).entries name =
      (Keyed.get? upper.entries name).or (Keyed.get? lower.entries name) := by
  induction fields with
  | nil => rfl
  | cons field rest ih =>
    obtain ⟨fresh, distinct⟩ := List.nodup_cons.1 distinct
    obtain ⟨listed, covered⟩ := List.forall_mem_cons.1 covered
    rw [overlay_cons, if_pos listed]
    obtain ⟨value, below⟩ := lower
    obtain ⟨given, above⟩ := upper
    rw [entries, entries, entries, Keyed.get?_append, Keyed.get?_append, Keyed.get?_append,
      Keyed.get?_toList_map, Keyed.get?_toList_map, Keyed.get?_toList_map, ih distinct covered]
    split
    · next same =>
      -- no later field has the name of the first one
      subst same
      rw [get?_entries_eq_none fresh, get?_entries_eq_none fresh]
      cases given <;> cases value <;> rfl
    · rfl

end Row

/-- Reads a field that may be left out. -/
def Field.readGiven (field : Field) : Option Draft → Except Mismatch (Option field.kind.Value)
  | none => .ok none
  | some draft => Reader.optional field.kind.read draft

/-- What is read is nothing, and then nothing but a null is given, or it is what is given. -/
theorem Field.readGiven_cases {field : Field} {given : Option Json}
    {value : Option field.kind.Value}
    (done : field.readGiven (given.map Draft.ofJson) = .ok value) :
    (given = none ∨ given = some .null) ∧ value = none ∨
    ∃ written v, given = some written ∧ written ≠ .null ∧
      field.kind.read (.ofJson written) = .ok v ∧ value = some v := by
  cases given with
  | none =>
    cases done
    exact .inl ⟨.inl rfl, rfl⟩
  | some written =>
    cases written with
    | null =>
      cases done
      exact .inl ⟨.inr rfl, rfl⟩
    | bool | int | real | str | arr | obj =>
      obtain ⟨v, back, rfl⟩ := Result.map_eq_ok_iff.1 done
      exact .inr ⟨_, v, rfl, nofun, back, rfl⟩

namespace State

/-- The attribute that a declaration gives in a field, if it gives one that is not null. -/
def attributeIn (field : Field) (node : Node) : Option Attribute :=
  match Keyed.get? node field.name with
  | none | some .null => none
  | some value => (field.kind.read (.ofJson value)).toOption.map field.kind.toAttribute

variable {field : Field} {node : Node} {value : Option field.kind.Value}

/-- Where a field is read, the attribute given in it is what is read, and nothing but a null stands
for a field that is left out. -/
theorem attributeIn_of_readGiven
    (done : field.readGiven ((Keyed.get? node field.name).map Draft.ofJson) = .ok value) :
    attributeIn field node = value.map field.kind.toAttribute ∧
    (attributeIn field node = none ↔
      Keyed.get? node field.name = none ∨ Keyed.get? node field.name = some .null) := by
  rcases Field.readGiven_cases done with ⟨absent, rfl⟩ | ⟨written, v, present, notNull, back, rfl⟩
  · rcases absent with absent | null
    · simp [attributeIn, absent]
    · simp [attributeIn, null]
  · simp [attributeIn, present, notNull, back, Except.toOption]

end State

namespace Row

variable {fields : List Field}

/-- The fields of a row are read one by one. -/
theorem read_cons_eq_ok_iff {given : String → Option Draft} {field : Field} {rest : List Field}
    {row : Row (field :: rest)} : read given (field :: rest) = .ok row ↔
      field.readGiven (given field.name) = .ok row.1 ∧ read given rest = .ok row.2 := by
  have split : read given (field :: rest) = (do
      let value ← field.readGiven (given field.name)
      let values ← read given rest
      Except.ok (ε := Mismatch) ((value, values) : Row (field :: rest))) := by
    rw [read]
    cases given field.name <;> rfl
  rw [split, Result.bind_eq_ok_iff]
  constructor
  · rintro ⟨value, one, done⟩
    obtain ⟨values, others, same⟩ := Result.bind_eq_ok_iff.1 done
    cases same
    exact ⟨one, others⟩
  · rintro ⟨one, others⟩
    exact ⟨row.1, one, Result.bind_eq_ok_iff.2 ⟨row.2, others, rfl⟩⟩

theorem read_congr {given other : String → Option Draft}
    (same : ∀ field ∈ fields, given field.name = other field.name) :
    read given fields = read other fields := by
  induction fields with
  | nil => rfl
  | cons field rest ih =>
    rw [read, read, same field (List.mem_cons_self ..),
      ih fun further member => same further (List.mem_cons_of_mem _ member)]

/-- Each field of a row that is read from a declaration has the attribute given there, and nothing
but a null stands for a field that is left out. -/
theorem get?_read {node : Node} {row : Row fields} (distinct : (fields.map Field.name).Nodup)
    (done : read (fun name => (Keyed.get? node name).map Draft.ofJson) fields = .ok row)
    {field : Field} (member : field ∈ fields) :
    Keyed.get? row.entries field.name = State.attributeIn field node ∧
    (State.attributeIn field node = none ↔
      Keyed.get? node field.name = none ∨ Keyed.get? node field.name = some .null) := by
  induction fields with
  | nil => cases member
  | cons first rest ih =>
    obtain ⟨value, values⟩ := row
    obtain ⟨fresh, distinct⟩ := List.nodup_cons.1 distinct
    obtain ⟨own, others⟩ := read_cons_eq_ok_iff.1 done
    rw [entries, Keyed.get?_append, Keyed.get?_toList_map]
    rcases List.mem_cons.1 member with rfl | later
    · rw [if_pos rfl, get?_entries_eq_none fresh, Option.or_none]
      exact (State.attributeIn_of_readGiven own).imp_left Eq.symm
    · have differs : first.name ≠ field.name := fun same =>
        fresh (same ▸ List.mem_map_of_mem later)
      rw [if_neg differs, Option.none_or]
      exact ih distinct others later

/-! ### Rows side by side -/

variable {others : List Field}

/-- Two rows as one. -/
def append : {fields : List Field} → Row fields → Row others → Row (fields ++ others)
  | [], (), row => row
  | _ :: _, (value, rest), row => (value, append rest row)

theorem entries_append (row : Row fields) (further : Row others) :
    (row.append further).entries = row.entries ++ further.entries := by
  induction fields with
  | nil => rfl
  | cons field rest ih =>
    obtain ⟨value, row⟩ := row
    have tail := ih row
    rw [entries, List.append_assoc, ← tail]
    rfl

theorem overlay_append (names : List String) (lower upper : Row fields) (below above : Row others) :
    (lower.append below).overlay names (upper.append above) =
      (lower.overlay names upper).append (below.overlay names above) := by
  induction fields with
  | nil => rfl
  | cons field rest ih =>
    refine (overlay_cons names (lower.append below) (upper.append above)).trans ?_
    rw [overlay_cons]
    exact Prod.ext rfl (ih lower.2 upper.2)

theorem read_append {given : String → Option Draft} {row : Row fields} {further : Row others}
    (first : read given fields = .ok row) (second : read given others = .ok further) :
    read given (fields ++ others) = .ok (row.append further) := by
  induction fields with
  | nil => exact second
  | cons field rest ih =>
    obtain ⟨own, later⟩ := read_cons_eq_ok_iff.1 first
    exact read_cons_eq_ok_iff.2 ⟨own, ih later⟩

end Row

/-! ## Attributes of a category -/

/-- All attribute fields of a category. -/
abbrev Category.attributeFields (category : Category) : List Field :=
  category.ownFields ++ commonFields ++ category.placement

theorem Category.attributeFields_nodup (category : Category) :
    (category.attributeFields.map Field.name).Nodup := by
  have distinct := category.stateNames_nodup
  simp only [stateNames, List.append_assoc] at distinct
  simp only [attributeFields, List.map_append, List.append_assoc]
  exact (List.nodup_append.1 distinct).2.1

theorem commonOverlaid_perm : commonOverlaid.Perm (commonFields.map Field.name) := by
  decide

theorem Category.ownOverlaid_perm (category : Category) :
    category.ownOverlaid.Perm (category.ownFields.map Field.name) := by
  cases category <;> decide +kernel

theorem Category.placementOverlaid_perm (category : Category) :
    category.placementOverlaid.Perm (category.placement.map Field.name) := by
  cases category <;> decide +kernel

/-- The names of all fields that are laid over. -/
abbrev Category.overlaid (category : Category) : List String :=
  category.ownOverlaid ++ commonOverlaid ++ category.placementOverlaid

/-- The lists of what is laid over leave no field out, and list nothing else and nothing twice. -/
theorem Category.overlaid_perm (category : Category) :
    category.overlaid.Perm (category.attributeFields.map Field.name) := by
  rw [attributeFields, List.map_append, List.map_append]
  exact (category.ownOverlaid_perm.append commonOverlaid_perm).append
    category.placementOverlaid_perm

/-- The fields that say where a declaration belongs and when, and what it is made of. -/
def Category.structuralKeys : List String :=
  ["id", "target_id", "parent_id", "template", "time", "relative_time", "add_time", "reset",
    "states"]

theorem Category.name_not_structural (category : Category) :
    ∀ field ∈ category.attributeFields, field.name ∉ structuralKeys := by
  cases category <;> decide

variable {category : Category}

namespace Attributes

/-- The value of an attribute, by the name of its field. -/
def get? (attributes : Attributes category) (name : String) : Option Attribute :=
  Keyed.get? attributes.entries name

theorem get?_blank (name : String) : (blank category).get? name = none := by
  rw [get?, entries, blank, Row.entries_blank, Row.entries_blank, Row.entries_blank]
  rfl

/-- The attributes as one row. -/
def whole (attributes : Attributes category) : Row category.attributeFields :=
  (attributes.own.append attributes.common).append attributes.placement

theorem get?_eq_whole (attributes : Attributes category) (name : String) :
    attributes.get? name = Keyed.get? attributes.whole.entries name := by
  rw [get?, entries, whole, Row.entries_append, Row.entries_append]

/-- Each group is laid over by its own list, which has all its fields; so it could as well be laid
over by the names of all groups. -/
theorem whole_overlay (lower upper : Attributes category) :
    (lower.overlay upper).whole = lower.whole.overlay category.overlaid upper.whole := by
  have rows {fields : List Field} {names : List String} (lists : names.Perm (fields.map Field.name))
      (among : names ⊆ category.overlaid) (below above : Row fields) :
      below.overlay names above = below.overlay category.overlaid above := by
    refine Row.overlay_congr (fun field member => ?_) below above
    have listed : field.name ∈ names := lists.mem_iff.2 (List.mem_map_of_mem member)
    exact iff_of_true listed (among listed)
  rw [whole, whole, whole, Row.overlay_append, Row.overlay_append, overlay,
    rows category.ownOverlaid_perm (by simp [Category.overlaid]),
    rows commonOverlaid_perm (by simp [Category.overlaid]),
    rows category.placementOverlaid_perm (by simp [Category.overlaid])]

theorem get?_overlay (lower upper : Attributes category) (name : String) :
    (lower.overlay upper).get? name = (upper.get? name).or (lower.get? name) := by
  have covered : ∀ field ∈ category.attributeFields, field.name ∈ category.overlaid :=
    fun field member => category.overlaid_perm.mem_iff.2 (List.mem_map_of_mem member)
  rw [get?_eq_whole, whole_overlay, Row.get?_overlay category.attributeFields_nodup covered,
    ← get?_eq_whole, ← get?_eq_whole]

/-- The attributes that are read depend on the attribute fields alone. -/
theorem read_congr {given other : String → Option Draft}
    (same : ∀ field ∈ category.attributeFields, given field.name = other field.name) :
    read category given = read category other := by
  have rows (fields : List Field) (among : fields ⊆ category.attributeFields) :
      Row.read given fields = Row.read other fields :=
    Row.read_congr fun field member => same field (among member)
  have own : category.ownFields ⊆ category.attributeFields := by simp [Category.attributeFields]
  have common : commonFields ⊆ category.attributeFields := by simp [Category.attributeFields]
  have placement : category.placement ⊆ category.attributeFields := by
    simp [Category.attributeFields]
  rw [read, read, rows _ own, rows _ common, rows _ placement]

theorem read_eq_ok_iff {given : String → Option Draft} {attributes : Attributes category} :
    read category given = .ok attributes ↔
      Row.read given category.ownFields = .ok attributes.own ∧
      Row.read given commonFields = .ok attributes.common ∧
      Row.read given category.placement = .ok attributes.placement := by
  constructor
  · intro done
    obtain ⟨own, readOwn, done⟩ := Result.bind_eq_ok_iff.1 done
    obtain ⟨common, readCommon, done⟩ := Result.bind_eq_ok_iff.1 done
    obtain ⟨placement, readPlacement, same⟩ := Result.bind_eq_ok_iff.1 done
    cases same
    exact ⟨readOwn, readCommon, readPlacement⟩
  · rintro ⟨own, common, placement⟩
    rw [read, own, common, placement]
    rfl

theorem get?_read {node : Node} {attributes : Attributes category}
    (done : read category (fun name => (Keyed.get? node name).map Draft.ofJson) = .ok attributes)
    {field : Field} (member : field ∈ category.attributeFields) :
    attributes.get? field.name = State.attributeIn field node ∧
    (State.attributeIn field node = none ↔
      Keyed.get? node field.name = none ∨ Keyed.get? node field.name = some .null) := by
  obtain ⟨own, common, placement⟩ := read_eq_ok_iff.1 done
  rw [get?_eq_whole]
  exact Row.get?_read category.attributeFields_nodup
    (Row.read_append (Row.read_append own common) placement) member

end Attributes

namespace State

theorem patchOf_eq_ok_iff {node : Node} {patch : Attributes category} :
    patchOf category node = .ok patch ↔
      Attributes.read category (fun name => (Keyed.get? node name).map Draft.ofJson) =
        .ok patch := by
  unfold patchOf
  split
  · next attributes done => rw [done, Except.ok.injEq, Except.ok.injEq]
  · next mismatch failed => simp [failed]

/-- An attribute of a state is given by its declaration, or else by the state that comes before it,
unless the declaration resets. -/
theorem get?_of_follow {before : Option (State category)} {node : Node} {state : State category}
    (followed : follow before node = .ok state) {field : Field}
    (member : field ∈ category.attributeFields) :
    state.attributes.get? field.name = (attributeIn field node).or
      (if resets node then none
        else before.bind fun front => front.attributes.get? field.name) ∧
    (attributeIn field node = none ↔
      Keyed.get? node field.name = none ∨ Keyed.get? node field.name = some .null) := by
  obtain ⟨patch, given, same⟩ := Result.bind_eq_ok_iff.1 followed
  cases same
  obtain ⟨found, readable⟩ := Attributes.get?_read (patchOf_eq_ok_iff.1 given) member
  refine ⟨?_, readable⟩
  rw [Attributes.get?_overlay, found]
  congr 1
  -- what the patch is laid over: the blank state, or the state that comes before
  split
  · exact Attributes.get?_blank _
  · cases before with
    | none => exact Attributes.get?_blank _
    | some front => rfl

/-- The declarations up to the first one that resets. -/
def untilReset : List Node → List Node
  | [] => []
  | node :: rest => if resets node then [node] else node :: untilReset rest

theorem findSome?_untilReset_cons (field : Field) (node : Node) (rest : List Node) :
    (untilReset (node :: rest)).findSome? (attributeIn field) =
      (attributeIn field node).or
        (if resets node then none else (untilReset rest).findSome? (attributeIn field)) := by
  rw [untilReset]
  split
  · rw [List.findSome?_cons]
    cases attributeIn field node <;> rfl
  · rw [List.findSome?_cons]
    cases attributeIn field node <;> rfl

end State

/-! ## The way back -/

namespace Moment

/-- The state in front of a moment: that of the sibling in front of it, or else of its parent. -/
def stateInFront (parent : Moment category) (earlier : List (Moment category)) : State category :=
  (earlier.getLast?.getD parent).state

theorem stateInFront_concat (parent moment : Moment category) (earlier : List (Moment category)) :
    stateInFront parent (earlier ++ [moment]) = moment.state := by
  rw [stateInFront, List.getLast?_concat, Option.getD_some]

/-- A moment comes after a state if its own is made from that state; the time aside. -/
def Succeeds (before : Option (State category)) (moment : Moment category) : Prop :=
  ∃ made, State.follow before moment.node = .ok made ∧
    moment.state = { made with time := moment.state.time }

/-- In a chained tree, every moment below the root comes after the state in front of it. -/
def Chained (tree : Moment category) : Prop :=
  tree.Everywhere fun parent earlier moment => moment.Succeeds (some (stateInFront parent earlier))

/-- The way back from a moment of a tree: the moment itself, its siblings in front from the last to
the first, and then the way back from its parent. -/
inductive WayBack (tree : Moment category) : Moment category → List (Moment category) → Prop
  | root : WayBack tree tree [tree]
  | nested {parent moment : Moment category} {back earlier later : List (Moment category)}
      (above : WayBack tree parent back) (place : parent.nested = earlier ++ moment :: later) :
      WayBack tree moment (moment :: (earlier.reverse ++ back))

end Moment

section

variable {chart : Chart} {templates : Templates} {rootTime : Option Binary64}

/-- A walk carries along the state in front, and makes each state from it. -/
theorem Walk.chained {cursor : Cursor category} {variants : List Node}
    {moments : List (Moment category)} {after : Binding}
    (walk : Walk chart templates rootTime cursor variants moments after)
    (parent : Moment category) (front : cursor.last = parent.state) :
    (∀ earlier moment later, moments = earlier ++ moment :: later →
      moment.Succeeds (some (Moment.stateInFront parent earlier))) ∧
    ∀ moment ∈ moments, moment.Chained := by
  let fits (cursor : Cursor category) (parent : Moment category)
      (earlier : List (Moment category)) : Prop :=
    cursor.last = Moment.stateInFront parent earlier
  let holds (parent : Moment category) (earlier : List (Moment category))
      (moment : Moment category) : Prop :=
    moment.Succeeds (some (Moment.stateInFront parent earlier))
  refine walk.everywhere holds fits ?_ parent [] front
  intro cursor parent earlier node token state nested between front followed
  refine ⟨⟨state, front ▸ followed, rfl⟩, rfl, ?_⟩
  exact (Moment.stateInFront_concat parent ⟨node, token, cursor.place token state, nested⟩
    earlier).symm

namespace Timeline.Makes

variable {binding after : Binding} {root : Node} {tree : Moment category}

theorem chained (made : Makes chart templates binding root tree after) :
    tree.Chained := by
  obtain ⟨variants, _, walk⟩ := made.walked
  have below := walk.chained tree rfl
  exact Moment.everywhere_of_nested below.1 below.2

theorem succeeds (made : Makes chart templates binding root tree after) :
    tree.Succeeds none := by
  obtain ⟨first, followed, placed⟩ := made.followed
  rw [← made.node] at followed
  exact ⟨first, followed, by rw [placed]⟩

end Timeline.Makes

end

namespace Moment

variable {moment tree : Moment category} {back : List (Moment category)}

theorem Within.of_nested {parent : Moment category} (inside : parent.Within tree)
    (member : moment ∈ parent.nested) : moment.Within tree := by
  induction inside with
  | refl => exact .deeper member (.refl moment)
  | deeper above _ ih => exact .deeper above ih

theorem WayBack.within (way : WayBack tree moment back) : moment.Within tree := by
  induction way with
  | root => exact .refl tree
  | nested _ place ih =>
    exact ih.of_nested (place ▸ List.mem_append_right _ (List.mem_cons_self ..))

/-- A way back from below a child goes on from the child to the root. -/
theorem WayBack.exists_of_nested {child : Moment category} (way : WayBack child moment back)
    (member : child ∈ tree.nested) : ∃ further, WayBack tree moment further := by
  induction way with
  | root =>
    obtain ⟨earlier, later, place⟩ := List.append_of_mem member
    exact ⟨_, .nested .root place⟩
  | nested _ place ih =>
    obtain ⟨further, above⟩ := ih
    exact ⟨_, .nested above place⟩

theorem exists_wayBack (inside : moment.Within tree) : ∃ back, WayBack tree moment back := by
  induction inside with
  | refl => exact ⟨_, .root⟩
  | deeper member _ ih =>
    obtain ⟨back, way⟩ := ih
    exact way.exists_of_nested member

/-- If looking back from the state in front finds its attribute, looking back from the moment finds
that of the moment. -/
theorem Succeeds.get?_eq {before : Option (State category)} (succeeds : moment.Succeeds before)
    {field : Field} (member : field ∈ category.attributeFields) {behind : List Node}
    (front : (before.bind fun state => state.attributes.get? field.name) =
      (State.untilReset behind).findSome? (State.attributeIn field)) :
    moment.state.attributes.get? field.name =
      (State.untilReset (moment.node :: behind)).findSome? (State.attributeIn field) := by
  obtain ⟨made, followed, placed⟩ := succeeds
  rw [placed, State.findSome?_untilReset_cons, ← front]
  exact (State.get?_of_follow followed member).1

/-- What holds of the root and, step by step, of every moment that comes after one of which it
holds, holds of every moment and its way back. A moment comes after the sibling in front of it, or
else after its parent. -/
theorem WayBack.along (holds : Moment category → List (Moment category) → Prop)
    (start : holds tree [tree])
    (step : ∀ parent earlier moment later back, parent.Within tree →
      parent.nested = earlier ++ moment :: later →
      holds (earlier.getLast?.getD parent) back → holds moment (moment :: back))
    (way : WayBack tree moment back) : holds moment back := by
  -- down from the root, one level of siblings at a time
  induction way with
  | root => exact start
  | @nested parent moment back earlier later above place ih =>
    -- from the first sibling on, since each comes after the one in front
    induction earlier using List.reverseRecOn generalizing moment later with
    | nil => exact step parent [] moment later back above.within place ih
    | append_singleton earlier sibling beside =>
      have before : parent.nested = earlier ++ sibling :: moment :: later := by
        rw [place, List.append_assoc]
        rfl
      refine step parent _ moment later _ above.within place ?_
      rw [List.getLast?_concat, Option.getD_some, List.reverse_append]
      exact beside before

theorem Chained.get?_eq (chained : tree.Chained) (start : tree.Succeeds none)
    (way : WayBack tree moment back) {field : Field}
    (member : field ∈ category.attributeFields) :
    moment.state.attributes.get? field.name =
      (State.untilReset (back.map node)).findSome? (State.attributeIn field) := by
  let holds (moment : Moment category) (back : List (Moment category)) : Prop :=
    moment.state.attributes.get? field.name =
      (State.untilReset (back.map node)).findSome? (State.attributeIn field)
  refine way.along holds (start.get?_eq member rfl) ?_
  intro parent earlier moment later back inside place front
  exact (chained parent inside earlier moment later place).get?_eq member front

/-- Every moment of a chained tree comes after some state or is the root. -/
theorem Chained.exists_succeeds (chained : tree.Chained) (start : tree.Succeeds none)
    (inside : moment.Within tree) : ∃ before, moment.Succeeds before := by
  obtain ⟨back, way⟩ := exists_wayBack inside
  cases way with
  | root => exact ⟨none, start⟩
  | nested above place => exact ⟨_, chained _ above.within _ _ _ place⟩

theorem Succeeds.own {before : Option (State category)} (succeeds : moment.Succeeds before) :
    moment.state.relativeTime = State.numberIn moment.node "relative_time" ∧
    moment.state.addTime = State.numberIn moment.node "add_time" ∧
    ∀ field ∈ category.attributeFields, State.attributeIn field moment.node = none ↔
      Keyed.get? moment.node field.name = none ∨
      Keyed.get? moment.node field.name = some .null := by
  obtain ⟨made, followed, placed⟩ := succeeds
  refine ⟨?_, ?_, fun field member => (State.get?_of_follow followed member).2⟩
  · obtain ⟨patch, _, same⟩ := Result.bind_eq_ok_iff.1 followed
    cases same
    rw [placed]
  · obtain ⟨patch, _, same⟩ := Result.bind_eq_ok_iff.1 followed
    cases same
    rw [placed]

end Moment

namespace Timeline

variable {chart : Chart} {templates : Templates}

/-- **Inherited attributes.** If the states of an object can be built, they are those of the tree
that its declaration unfolds to. Every attribute of every state has the value that the nearest
declaration on the way back gives it, up to and with the first one that resets: the declaration
of the state itself, its siblings in front from the last to the first, its parent, the siblings in
front of the parent, and so on up to the root. Where none of them gives it, the state does not have
it. A declaration gives every field that it has and that is not null. The relative and the
additional time of a state are always those of its own declaration. -/
theorem build_inherits {binding after : Binding} {root : Node} {states : List (State category)}
    (built : build category chart templates binding root = .ok (states, after)) :
    ∃ tree : Moment category,
      Makes chart templates binding root tree after ∧
      tree.Unfolds chart templates ∧
      inOrder category chart templates binding root =
        .ok (tree.inOrder.map Moment.state, after) ∧
      states = (tree.inOrder.map Moment.state).mergeSort State.timeLe ∧
      ∀ moment : Moment category, moment.Within tree →
        (∃ back, Moment.WayBack tree moment back) ∧
        (∀ back, Moment.WayBack tree moment back → ∀ field ∈ category.attributeFields,
          moment.state.attributes.get? field.name =
            (State.untilReset (back.map Moment.node)).findSome? (State.attributeIn field)) ∧
        (∀ field ∈ category.attributeFields, State.attributeIn field moment.node = none ↔
          Keyed.get? moment.node field.name = none ∨
          Keyed.get? moment.node field.name = some .null) ∧
        moment.state.relativeTime = State.numberIn moment.node "relative_time" ∧
        moment.state.addTime = State.numberIn moment.node "add_time" := by
  obtain ⟨tree, made, walked, rfl⟩ := exists_makes_of_build built
  refine ⟨tree, made, made.unfolds, walked, rfl, fun moment inside => ?_⟩
  obtain ⟨before, succeeds⟩ := made.chained.exists_succeeds made.succeeds inside
  obtain ⟨relative, additional, readable⟩ := succeeds.own
  exact ⟨Moment.exists_wayBack inside,
    fun back way field member => made.chained.get?_eq made.succeeds way member,
    readable, relative, additional⟩

/-! A text whose size comes from its root, is changed by a sibling, is not changed by what is nested
in that sibling, survives a null, and is gone behind a reset. -/

def inheritingRoot : Node :=
  [("size", .int 20),
   ("states", .arr
      [.obj [("size", .int 30), ("states", .arr [.obj [], .obj [("size", .int 40)]])],
       .obj [("size", .null)],
       .obj [("reset", .bool true)],
       .obj [("size", .int 50)]])]

theorem build_inherits_size :
    ∃ states, build .text Chart.empty Templates.empty none inheritingRoot = .ok (states, none) ∧
      ∃ tree : Moment .text, tree.node = inheritingRoot ∧
        (tree.inOrder.map fun moment => moment.state.attributes.get? "size") =
          [some (.integer 20), some (.integer 30), some (.integer 30), some (.integer 40),
            some (.integer 30), none, some (.integer 50)] ∧
        ∀ moment ∈ tree.inOrder, ∃ back, Moment.WayBack tree moment back ∧
          moment.state.attributes.get? "size" =
            (State.untilReset (back.map Moment.node)).findSome?
              (State.attributeIn ⟨"size", .integer⟩) := by
  have computed :
      (inOrder .text Chart.empty Templates.empty none inheritingRoot).toOption.map
          (fun made => (made.1.map fun state => state.attributes.get? "size", made.2)) =
        some ([some (.integer 20), some (.integer 30), some (.integer 30), some (.integer 40),
          some (.integer 30), none, some (.integer 50)], none) := by
    decide +kernel
  obtain ⟨⟨ordered, bound⟩, given, sizes⟩ := Option.map_eq_some_iff.1 computed
  obtain ⟨sizes, rfl⟩ := Prod.mk.inj sizes
  have walked := Result.eq_ok_of_toOption given
  have built : build .text Chart.empty Templates.empty none inheritingRoot =
      .ok (ordered.mergeSort State.timeLe, none) := by
    rw [build, walked]
    rfl
  obtain ⟨tree, made, _, again, _, inherits⟩ := build_inherits built
  rw [walked] at again
  cases again
  rw [List.map_map] at sizes
  refine ⟨_, built, tree, made.node, sizes, fun moment member => ?_⟩
  obtain ⟨⟨back, way⟩, nearest, _⟩ := inherits moment (Moment.mem_inOrder_iff.1 member)
  exact ⟨back, way, nearest back way ⟨"size", .integer⟩ (by decide)⟩

end Timeline
end Storyboard
