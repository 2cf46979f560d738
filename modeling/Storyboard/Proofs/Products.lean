import Storyboard.Proofs.Selection
import Storyboard.Proofs.Variants

/-!
# Fanning out as a product

A declaration fans out over one time field and over its notes. Each of the two says what it puts in
the place of fields, for one variant after the other, and the variants are the product: for each
time in order, all notes in order. Only the field `note` can make it fail, whatever the times are.

Main statement: `fanOut_product`.
-/
namespace Storyboard

namespace Fanout

variable {chart : Chart} {node : Node}

/-- A value of the field `note` that is neither a note nor notes. -/
inductive NoteRefused : Json → Prop
  | str (text : String) : NoteRefused (.str text)
  | bool (b : Bool) : NoteRefused (.bool b)
  | real (x : Finite64) : NoteRefused (.real x)
  | int {n : Int} (other : ¬ (Json.int n).IsInt32) : NoteRefused (.int n)
  | element {items : List Json} {item : Json} (member : item ∈ items) (other : ¬ item.IsInt32) :
    NoteRefused (.arr items)
  | selector {spec : Node} (refused : Selector.Refused spec) : NoteRefused (.obj spec)

/-- What fanning out over the times puts in the place of fields: an item for the first time field
that is an array with items, and nothing if there is none. -/
inductive TimeChanges (node : Node) : List Node → Prop
  | plain (single : ∀ field ∈ timeFields, ∀ items,
      Keyed.get? node field = some (.arr items) → items = []) : TimeChanges node [[]]
  | first {before after : List String} {field : String} {item : Json} {items : List Json}
      (order : timeFields = before ++ field :: after)
      (single : ∀ earlier ∈ before, ∀ items,
        Keyed.get? node earlier = some (.arr items) → items = [])
      (given : Keyed.get? node field = some (.arr (item :: items))) :
    TimeChanges node ((item :: items).map fun item => [(field, item)])

/-- What fanning out over the notes puts in the place of fields: a note of an array or of a
selection, and nothing for a single note or none. -/
inductive NoteChanges (chart : Chart) : Option Json → List Node → Prop
  | absent : NoteChanges chart none [[]]
  | null : NoteChanges chart (some .null) [[]]
  | single (id : NoteId) : NoteChanges chart (some (.int id.toInt)) [[]]
  | listed (ids : List NoteId) :
    NoteChanges chart (some (.arr (ids.map fun id => .int id.toInt)))
      (ids.map fun id => [("note", .int id.toInt)])
  | selected {spec : Node} {ids : List NoteId} (selects : Selector.Selects spec chart ids) :
    NoteChanges chart (some (.obj spec)) (ids.map fun id => [("note", .int id.toInt)])

/-- Variants of a declaration are its product with changes of times and of notes: there is one for
each pair, the notes run faster, and every field that neither changes is that of the declaration. -/
structure IsProduct (node : Node) (times notes variants : List Node) : Prop where
  length : variants.length = times.length * notes.length
  variant : ∀ i j (insideTimes : i < times.length) (insideNotes : j < notes.length),
    ∃ variant, variants[i * notes.length + j]? = some variant ∧
      ∀ key, Keyed.get? variant key =
        (Keyed.get? notes[j] key).or ((Keyed.get? times[i] key).or (Keyed.get? node key))

/-! ## Times -/

/-- The changes of the times, one for each item of the field that fans out. -/
def timeChanges (node : Node) : List Node :=
  match timeItems? node with
  | none => [[]]
  | some (field, items) => items.map fun item => [(field, item)]

theorem times_eq (node : Node) : times node = (timeChanges node).map (Keyed.overlay node) := by
  unfold times timeChanges
  cases timeItems? node with
  | none => rfl
  | some fans =>
    obtain ⟨field, items⟩ := fans
    rw [List.map_map]
    rfl

theorem skipped_iff {field : String} : (match Keyed.get? node field with
      | some (.arr (item :: items)) => some (field, item :: items)
      | _ => none) = none ↔ ∀ items, Keyed.get? node field = some (.arr items) → items = [] := by
  split
  · next item items given =>
    constructor
    · nofun
    · intro single
      cases single _ given
  · next other =>
    refine iff_of_true rfl fun items given => ?_
    cases items with
    | nil => rfl
    | cons item items => exact absurd given (other item items)

theorem timeItems?_eq_none_iff : timeItems? node = none ↔
    ∀ field ∈ timeFields, ∀ items, Keyed.get? node field = some (.arr items) → items = [] := by
  rw [timeItems?, List.findSome?_eq_none_iff]
  exact forall₂_congr fun _ _ => skipped_iff

theorem timeChanges_spec (node : Node) : TimeChanges node (timeChanges node) := by
  rw [timeChanges]
  cases fans : timeItems? node with
  | none => exact .plain (timeItems?_eq_none_iff.1 fans)
  | some fanned =>
    obtain ⟨before, field, after, order, found, skipped⟩ := List.findSome?_eq_some_iff.1 fans
    split at found
    · next given =>
      cases found
      exact .first order (fun earlier member => skipped_iff.1 (skipped earlier member)) given
    · cases found

/-- A change of the times leaves a field alone that is no time field or no array. -/
theorem TimeChanges.get?_eq_none {node time : Node} {times : List Node}
    (changes : TimeChanges node times) (member : time ∈ times) (key : String)
    (single : key ∈ timeFields → ∀ items, Keyed.get? node key ≠ some (.arr items)) :
    Keyed.get? time key = none := by
  cases changes with
  | plain =>
    rw [List.mem_singleton.1 member]
    rfl
  | first order _ given =>
    obtain ⟨item, _, rfl⟩ := List.mem_map.1 member
    rw [Keyed.get?, if_neg]
    · rfl
    · rintro rfl
      exact single (order ▸ List.mem_append_cons_self) _ given

theorem TimeChanges.ne_nil {node : Node} {times : List Node} (changes : TimeChanges node times) :
    times ≠ [] := by
  cases changes with
  | plain => nofun
  | first => nofun

/-! ## Notes -/

/-- The changes of the notes, one for each note, and a single one for a node that stays one. -/
def noteChanges (ids? : Option (List NoteId)) : List Node :=
  match ids? with
  | none => [[]]
  | some ids => ids.map fun id => [("note", .int id.toInt)]

theorem notes_eq (chart : Chart) (node : Node) : notes chart node =
    (noteIds? chart (Keyed.get? node "note")).map fun ids? =>
      (noteChanges ids?).map (Keyed.overlay node) := by
  rw [notes]
  congr 1
  funext ids?
  cases ids? with
  | none => rfl
  | some ids =>
    rw [noteChanges, List.map_map]
    rfl

theorem noteIdOf_reads : ReadsInt32 noteIdOf := by
  intro value id
  rw [← Json.int32?_eq_some_iff, noteIdOf]
  cases value.int32? with
  | none => simp
  | some other => simp

/-- Fanning out over the notes fails exactly at a value that is neither a note nor notes. -/
theorem exists_noteIds?_iff {chart : Chart} {value : Option Json} :
    (∃ ids?, noteIds? chart value = .ok ids?) ↔
      ∀ given, value = some given → ¬ NoteRefused given := by
  constructor
  · rintro ⟨ids?, found⟩ given rfl refused
    cases refused with
    | str | bool | real => cases found
    | int other =>
      obtain ⟨id, read, _⟩ := Result.map_eq_ok_iff.1 found
      exact other (noteIdOf_reads.exists_iff.1 ⟨id, read⟩)
    | element member other =>
      obtain ⟨ids, read, _⟩ := Result.map_eq_ok_iff.1 found
      exact other (noteIdOf_reads.exists_mapM_iff.1 ⟨ids, read⟩ _ member)
    | selector refused =>
      obtain ⟨selector, read, _⟩ := Result.map_eq_ok_iff.1 found
      exact Selector.exists_ofFields_iff.1 ⟨selector, read⟩ refused
  · intro accepted
    rcases value with _ | ⟨_ | b | n | x | text | items | spec⟩
    · exact ⟨none, rfl⟩
    · exact ⟨none, rfl⟩
    · exact absurd (.bool b) (accepted _ rfl)
    · obtain ⟨id, read⟩ := noteIdOf_reads.exists_iff.2
        (not_not.1 fun other => accepted (.int n) rfl (.int other))
      exact ⟨none, Result.map_eq_ok_iff.2 ⟨id, read, rfl⟩⟩
    · exact absurd (.real x) (accepted _ rfl)
    · exact absurd (.str text) (accepted _ rfl)
    · obtain ⟨ids, read⟩ := noteIdOf_reads.exists_mapM_iff.2 fun item member =>
        not_not.1 fun other => accepted (.arr items) rfl (.element member other)
      exact ⟨some ids, Result.map_eq_ok_iff.2 ⟨ids, read, rfl⟩⟩
    · obtain ⟨selector, read⟩ := Selector.exists_ofFields_iff.2
        fun refused => accepted (.obj spec) rfl (.selector refused)
      exact ⟨some _, Result.map_eq_ok_iff.2 ⟨selector, read, rfl⟩⟩

theorem noteChanges_spec {chart : Chart} {value : Option Json} {ids? : Option (List NoteId)}
    (found : noteIds? chart value = .ok ids?) : NoteChanges chart value (noteChanges ids?) := by
  rcases value with _ | ⟨_ | b | n | x | text | items | spec⟩
  · cases found
    exact .absent
  · cases found
    exact .null
  · cases found
  · obtain ⟨id, read, rfl⟩ := Result.map_eq_ok_iff.1 found
    rw [(noteIdOf_reads _ _).1 read]
    exact .single id
  · cases found
  · cases found
  · obtain ⟨ids, read, rfl⟩ := Result.map_eq_ok_iff.1 found
    rw [noteIdOf_reads.mapM_eq_ok_iff.1 read]
    exact .listed ids
  · obtain ⟨selector, read, rfl⟩ := Result.map_eq_ok_iff.1 found
    exact .selected (Selector.selects_of_ofFields read chart)

/-! ## Products -/

/-- Of blocks of one length, each item stands in its block and after all earlier blocks. -/
theorem getElem?_flatMap_map {α β γ : Type} (f : α → β → γ) (xs : List α) (ys : List β) {i j : Nat}
    (insideFirst : i < xs.length) (insideSecond : j < ys.length) :
    (xs.flatMap fun x => ys.map (f x))[i * ys.length + j]? = some (f xs[i] ys[j]) := by
  induction xs generalizing i with
  | nil => cases insideFirst
  | cons x xs ih =>
    rw [List.flatMap_cons]
    cases i with
    | zero =>
      rw [Nat.zero_mul, Nat.zero_add, List.getElem?_append_left (by simpa using insideSecond),
        List.getElem?_map, List.getElem?_eq_getElem insideSecond]
      rfl
    | succ i =>
      -- behind the first block, the rest is a product again
      have later : (i + 1) * ys.length + j = (ys.map (f x)).length + (i * ys.length + j) := by
        rw [List.length_map, Nat.succ_mul]
        omega
      rw [later, List.getElem?_append_right (Nat.le_add_right ..), Nat.add_sub_cancel_left,
        ih (Nat.lt_of_succ_lt_succ insideFirst)]
      rfl

theorem isProduct_flatMap (node : Node) (times notes : List Node) :
    IsProduct node times notes (times.flatMap fun time =>
      notes.map fun note => Keyed.overlay (Keyed.overlay node time) note) where
  length := by simp [List.length_flatMap]
  variant i j insideTimes insideNotes := by
    refine ⟨_, getElem?_flatMap_map _ _ _ insideTimes insideNotes, fun key => ?_⟩
    rw [Keyed.get?_overlay, Keyed.get?_overlay]

end Fanout

/-- Fanning out replaces fields of the declaration, for each time and for each note after it. -/
theorem fanOut_eq (chart : Chart) (node : Node) : fanOut chart node =
    (Fanout.noteIds? chart (Keyed.get? node "note")).map fun ids? =>
      (Fanout.timeChanges node).flatMap fun time =>
        (Fanout.noteChanges ids?).map fun note => Keyed.overlay (Keyed.overlay node time) note := by
  have changes := Fanout.timeChanges_spec node
  -- a change of the times leaves the note alone, so every time goes with the same notes
  have notes (time : Node) (member : time ∈ Fanout.timeChanges node) :
      (Fanout.notes chart ∘ Keyed.overlay node) time =
        (Fanout.noteIds? chart (Keyed.get? node "note")).map fun ids? =>
          (Fanout.noteChanges ids?).map (Keyed.overlay (Keyed.overlay node time)) := by
    rw [Function.comp, Fanout.notes_eq, Keyed.get?_overlay,
      changes.get?_eq_none member "note" fun inside => absurd inside (by decide),
      Option.none_or]
  rw [fanOut, Fanout.times_eq, List.mapM_map]
  cases found : Fanout.noteIds? chart (Keyed.get? node "note") with
  | ok ids? =>
    rw [found] at notes
    rw [Result.mapM_eq_ok_map notes]
    exact congrArg Except.ok (List.flatMap_def ..).symm
  | error fault =>
    -- there is a first time, and its notes fail
    obtain ⟨time, times, same⟩ := List.exists_cons_of_ne_nil changes.ne_nil
    rw [same, List.mapM_cons, notes time (same ▸ List.mem_cons_self ..), found]
    rfl

theorem exists_of_mem_fanOut {chart : Chart} {node variant : Node} {variants : List Node}
    (fanned : fanOut chart node = .ok variants) (member : variant ∈ variants) :
    ∃ ids?, Fanout.noteIds? chart (Keyed.get? node "note") = .ok ids? ∧
      ∃ time ∈ Fanout.timeChanges node, ∃ note ∈ Fanout.noteChanges ids?,
        variant = Keyed.overlay (Keyed.overlay node time) note := by
  rw [fanOut_eq] at fanned
  obtain ⟨ids?, found, rfl⟩ := Result.map_eq_ok_iff.1 fanned
  obtain ⟨time, timeMember, inside⟩ := List.mem_flatMap.1 member
  obtain ⟨note, noteMember, rfl⟩ := List.mem_map.1 inside
  exact ⟨ids?, found, time, timeMember, note, noteMember, rfl⟩

/-- A declaration stands for itself only if it has neither times nor notes to fan out over: an item
that takes the place of an array is not the array. -/
theorem fanOut_eq_self_iff {chart : Chart} {node : Node} : fanOut chart node = .ok [node] ↔
    (∀ field ∈ Fanout.timeFields, ∀ items,
      Keyed.get? node field = some (.arr items) → items = []) ∧
    Fanout.noteIds? chart (Keyed.get? node "note") = .ok none := by
  rw [← Fanout.timeItems?_eq_none_iff]
  constructor
  · intro single
    obtain ⟨ids?, found, time, timed, note, noted, same⟩ :=
      exists_of_mem_fanOut single (List.mem_singleton_self node)
    have kept (key : String) : Keyed.get? node key =
        (Keyed.get? note key).or ((Keyed.get? time key).or (Keyed.get? node key)) := by
      rw [← Keyed.get?_overlay, ← Keyed.get?_overlay, ← same]
    cases ids? with
    | some ids =>
      -- a note of its own is no list of notes
      obtain ⟨id, _, rfl⟩ := List.mem_map.1 noted
      rw [kept "note"] at found
      obtain ⟨_, _, same⟩ := Result.map_eq_ok_iff.1 found
      cases same
    | none =>
      cases List.mem_singleton.1 noted
      refine ⟨?_, found⟩
      cases fans : Fanout.timeItems? node with
      | none => rfl
      | some fanned =>
        obtain ⟨field, items⟩ := fanned
        rw [Fanout.timeChanges, fans] at timed
        obtain ⟨item, member, rfl⟩ := List.mem_map.1 timed
        have itself : Json.arr items = item := by
          simpa [(Fanout.timeItems?_eq_some fans).2, Keyed.get?] using kept field
        have smaller := List.sizeOf_lt_of_mem member
        rw [← itself, Json.arr.sizeOf_spec] at smaller
        omega
  · rintro ⟨times, notes⟩
    rw [fanOut_eq, notes, Fanout.timeChanges, times]
    rfl

open Fanout in
/-- **Fanning out is a product.** It fails exactly if the field `note` is neither a note nor notes,
whatever the times are. Otherwise the variants are the product of the declaration with the changes
of its times and of its notes. -/
theorem fanOut_product (chart : Chart) (node : Node) :
    ((∃ fault, fanOut chart node = .error fault) ↔
      ∃ value, Keyed.get? node "note" = some value ∧ NoteRefused value) ∧
    ∀ variants, fanOut chart node = .ok variants → ∃ times notes,
      TimeChanges node times ∧ NoteChanges chart (Keyed.get? node "note") notes ∧
        IsProduct node times notes variants := by
  rw [fanOut_eq]
  constructor
  · have accepted := @exists_noteIds?_iff chart (Keyed.get? node "note")
    cases found : noteIds? chart (Keyed.get? node "note") with
    | ok ids? =>
      have holds := accepted.1 ⟨ids?, found⟩
      constructor
      · rintro ⟨fault, failed⟩
        cases failed
      · rintro ⟨value, given, refused⟩
        exact absurd refused (holds value given)
    | error fault =>
      refine iff_of_true ⟨fault, rfl⟩ ?_
      by_contra none
      obtain ⟨ids?, same⟩ := accepted.2 fun value given refused => none ⟨value, given, refused⟩
      rw [found] at same
      cases same
  · intro variants done
    obtain ⟨ids?, found, rfl⟩ := Result.map_eq_ok_iff.1 done
    exact ⟨_, _, timeChanges_spec node, noteChanges_spec found, isProduct_flatMap ..⟩

/-! Two times and two notes, beside an array of times that stays and one without items; and the
same declaration with a text for the notes. -/

def crossed (note : Json) : Node :=
  [("add_time", .arr [.int 1, .int 2]), ("note", note), ("relative_time", .arr []),
    ("time", .arr [.int 9])]

def crossedVariant (item id : Int) : Node :=
  [("add_time", .int item), ("note", .int id), ("relative_time", .arr []), ("time", .arr [.int 9])]

open Fanout in
theorem fanOut_product_crossed :
    fanOut Chart.empty (crossed (.arr [.int 5, .int 3])) =
      .ok [crossedVariant 1 5, crossedVariant 1 3, crossedVariant 2 5, crossedVariant 2 3] ∧
    (∃ times notes, TimeChanges (crossed (.arr [.int 5, .int 3])) times ∧
      NoteChanges Chart.empty (some (.arr [.int 5, .int 3])) notes ∧
      IsProduct (crossed (.arr [.int 5, .int 3])) times notes
        [crossedVariant 1 5, crossedVariant 1 3, crossedVariant 2 5, crossedVariant 2 3]) ∧
    ∃ fault, fanOut Chart.empty (crossed (.str "all")) = .error fault := by
  have done : fanOut Chart.empty (crossed (.arr [.int 5, .int 3])) =
      .ok [crossedVariant 1 5, crossedVariant 1 3, crossedVariant 2 5, crossedVariant 2 3] :=
    Result.eq_ok_of_toOption (by decide +kernel)
  exact ⟨done, (fanOut_product _ _).2 _ done,
    (fanOut_product _ _).1.2 ⟨.str "all", rfl, .str "all"⟩⟩

end Storyboard
