import Std.Data.HashMap.Lemmas
import Mathlib.Data.List.Induction
import Storyboard.Chart.Reading
import Storyboard.Proofs.Sorting

/-!
# The index of a chart

A chart is the stable sort of its notes by their ids, and an id refers to the last of the notes
that have it. The index of the chart keeps the place of a note under each id: the notes are entered
one after the other, and a later note takes the place of an earlier one. What is entered for an id
is always the place of a note with that id, and the note there is the one that the id refers to.

Main statement: `Chart.ofNotes_indexed`.
-/
namespace Storyboard

/-! ## The last note of an id -/

namespace Note

/-- The last of some notes that have an id, with its place among them. -/
def IsLast (notes : List Note) (id : NoteId) (place : Nat) (note : Note) : Prop :=
  ∃ before after, notes = before ++ note :: after ∧ before.length = place ∧ note.id = id ∧
    ∀ later ∈ after, later.id ≠ id

variable {notes : List Note} {id : NoteId} {place : Nat} {last note : Note}

theorem not_isLast_nil : ¬ IsLast [] id place note := by
  rintro ⟨before, after, split, _⟩
  exact List.append_ne_nil_of_right_ne_nil before (List.cons_ne_nil note after) split.symm

/-- A note of a list with one more at its end is that one, or one in front of it. -/
theorem concat_eq_iff {before after : List Note} : notes ++ [last] = before ++ note :: after ↔
    (after = [] ∧ notes = before ∧ last = note) ∨
      ∃ between, after = between ++ [last] ∧ notes = before ++ note :: between := by
  constructor
  · intro split
    rcases List.eq_nil_or_concat' after with rfl | ⟨between, final, rfl⟩
    · obtain ⟨front, same⟩ := List.append_inj' split rfl
      exact .inl ⟨rfl, front, List.head_eq_of_cons_eq same⟩
    · rw [← List.cons_append, ← List.append_assoc] at split
      obtain ⟨front, same⟩ := List.append_inj' split rfl
      cases same
      exact .inr ⟨between, rfl, front⟩
  · rintro (⟨rfl, rfl, rfl⟩ | ⟨between, rfl, rfl⟩)
    · rfl
    · rw [List.append_assoc, List.cons_append]

/-- A note that comes behind all others is the last one of its id, and changes nothing for the
other ids. -/
theorem isLast_concat : IsLast (notes ++ [last]) id place note ↔
    if last.id = id then place = notes.length ∧ note = last else IsLast notes id place note := by
  unfold IsLast
  simp only [concat_eq_iff]
  split
  · next same =>
    constructor
    · rintro ⟨before, after, ⟨rfl, rfl, rfl⟩ | ⟨between, rfl, rfl⟩, rfl, _, others⟩
      · exact ⟨rfl, rfl⟩
      · -- the note at the end would be a later one that has the id
        exact absurd same (others last (List.mem_append_right _ (List.mem_singleton_self last)))
    · rintro ⟨rfl, rfl⟩
      exact ⟨notes, [], .inl ⟨rfl, rfl, rfl⟩, rfl, same, List.forall_mem_nil _⟩
  · next differs =>
    constructor
    · rintro ⟨before, after, ⟨rfl, rfl, rfl⟩ | ⟨between, rfl, rfl⟩, rfl, own, others⟩
      · exact absurd own differs
      · exact ⟨before, between, rfl, rfl, own,
          fun later member => others later (List.mem_append_left _ member)⟩
    · rintro ⟨before, after, rfl, rfl, own, others⟩
      refine ⟨before, after ++ [last], .inr ⟨after, rfl, rfl⟩, rfl, own, ?_⟩
      rw [List.forall_mem_append]
      exact ⟨others, by simpa using differs⟩

/-- There is a note at the place of the last one. -/
theorem IsLast.getElem? (isLast : IsLast notes id place note) : notes[place]? = some note := by
  obtain ⟨before, after, rfl, rfl, -, -⟩ := isLast
  simp

/-- The last note of an id is the last among those that have it. -/
theorem getLast?_filter_eq_some_iff :
    (notes.filter fun other => other.id = id).getLast? = some note ↔
      ∃ place, IsLast notes id place note := by
  induction notes using List.reverseRecOn with
  | nil => simp [not_isLast_nil]
  | append_singleton notes last ih =>
    rw [List.filter_append, List.getLast?_append]
    simp only [isLast_concat]
    by_cases same : last.id = id
    · simp [same, eq_comm]
    · rw [List.filter_cons_of_neg (by simpa using same)]
      simp only [if_neg same, ← ih]
      rfl

end Note

namespace Chart

/-! ## The index -/

/-- The places of some notes by their ids. The notes are entered in order, so of several notes with
one id the last one stays. -/
def placesOf (notes : List Note) : Std.HashMap NoteId Nat :=
  notes.zipIdx.foldl (fun places (note, place) => places.insert note.id place) ∅

/-- The index of a chart. -/
def places (chart : Chart) : Std.HashMap NoteId Nat := placesOf chart.notes

/-- The note at the place that the index has for an id. -/
def indexed? (chart : Chart) (id : NoteId) : Option Note :=
  chart.places[id]?.bind fun place => chart.notes[place]?

theorem placesOf_concat (notes : List Note) (last : Note) :
    placesOf (notes ++ [last]) = (placesOf notes).insert last.id notes.length := by
  simp [placesOf, List.zipIdx_append]

/-- **Invariant of the index**: under each id stands the place of the last note that has it. -/
theorem getElem?_placesOf_eq_some_iff {notes : List Note} {id : NoteId} {place : Nat} :
    (placesOf notes)[id]? = some place ↔ ∃ note, Note.IsLast notes id place note := by
  induction notes using List.reverseRecOn with
  | nil => simp [placesOf, Note.not_isLast_nil]
  | append_singleton notes last ih =>
    simp only [placesOf_concat, Std.HashMap.getElem?_insert, Note.isLast_concat, beq_iff_eq]
    by_cases same : last.id = id
    · simp [same, eq_comm]
    · simp [same, ih]

/-- The index leads to the note that an id refers to. -/
theorem indexed?_eq_note? (chart : Chart) (id : NoteId) : chart.indexed? id = chart.note? id := by
  apply Option.ext
  intro note
  rw [note?, Note.getLast?_filter_eq_some_iff, indexed?, Option.bind_eq_some_iff]
  constructor
  · rintro ⟨place, entered, found⟩
    obtain ⟨other, isLast⟩ := getElem?_placesOf_eq_some_iff.1 entered
    rw [isLast.getElem?] at found
    cases found
    exact ⟨place, isLast⟩
  · rintro ⟨place, isLast⟩
    exact ⟨place, getElem?_placesOf_eq_some_iff.2 ⟨note, isLast⟩, isLast.getElem?⟩

/-! ## The order -/

variable {notes others : List Note}

theorem filter_id_ofNotes (notes : List Note) (id : NoteId) :
    ((ofNotes notes).notes.filter fun note => note.id = id) =
      notes.filter fun note => note.id = id := by
  refine Sorting.filter_mergeSort Note.idLe_trans Note.idLe_total ?_ notes
  intro a b left right
  rw [decide_eq_true_eq] at left right
  rw [Note.idLe, left, right]
  exact decide_eq_true (Int32.le_refl id)

theorem mem_iff_of_filter_id_eq (same : ∀ id, (notes.filter fun note => note.id = id) =
    others.filter fun note => note.id = id) (note : Note) : note ∈ notes ↔ note ∈ others := by
  have own := congrArg (note ∈ ·) (same note.id)
  simpa using own

/-- Notes in the order of their ids are known by the notes of each id, in order. -/
theorem eq_of_filter_id_eq (sorted : notes.Pairwise fun a b => a.id ≤ b.id)
    (sortedOthers : others.Pairwise fun a b => a.id ≤ b.id)
    (same : ∀ id, (notes.filter fun note => note.id = id) =
      others.filter fun note => note.id = id) : notes = others := by
  have members := mem_iff_of_filter_id_eq same
  induction notes generalizing others with
  | nil =>
    refine (List.eq_nil_iff_forall_not_mem.2 fun note member => ?_).symm
    exact List.not_mem_nil ((members note).2 member)
  | cons note rest ih =>
    obtain ⟨below, sortedRest⟩ := List.pairwise_cons.1 sorted
    cases others with
    | nil => exact absurd ((members note).1 (List.mem_cons_self ..)) List.not_mem_nil
    | cons other more =>
      obtain ⟨belowOther, sortedMore⟩ := List.pairwise_cons.1 sortedOthers
      -- each of the two first notes is among the others, so both have the smallest id
      have smallest : note.id = other.id := by
        apply Int32.le_antisymm
        · rcases List.mem_cons.1 ((members other).2 (List.mem_cons_self ..)) with rfl | later
          · exact Int32.le_refl _
          · exact below other later
        · rcases List.mem_cons.1 ((members note).1 (List.mem_cons_self ..)) with rfl | later
          · exact Int32.le_refl _
          · exact belowOther note later
      have first := same note.id
      rw [List.filter_cons_of_pos (by simp), List.filter_cons_of_pos (by simp [smallest])] at first
      obtain ⟨rfl, -⟩ := List.cons.inj first
      have tails (id : NoteId) : (rest.filter fun note => note.id = id) =
          more.filter fun note => note.id = id := by
        have whole := same id
        by_cases own : note.id = id
        · simpa [own] using whole
        · simpa [own] using whole
      rw [ih sortedRest sortedMore tails (mem_iff_of_filter_id_eq tails)]

theorem pairwise_ofNotes (notes : List Note) :
    (ofNotes notes).notes.Pairwise fun a b => a.id ≤ b.id :=
  (ofNotes notes).sorted.imp of_decide_eq_true

theorem eq_of_notes_eq {chart other : Chart} (same : chart.notes = other.notes) :
    chart = other := by
  cases chart
  cases other
  simpa using same

/-- The sorted notes are the only ones in order that have the same notes of each id, in order. -/
theorem notes_ofNotes_eq_iff : (ofNotes notes).notes = others ↔
    (others.Pairwise fun a b => a.id ≤ b.id) ∧
      ∀ id, (others.filter fun note => note.id = id) = notes.filter fun note => note.id = id := by
  constructor
  · rintro rfl
    exact ⟨pairwise_ofNotes notes, filter_id_ofNotes notes⟩
  · rintro ⟨sorted, same⟩
    refine eq_of_filter_id_eq (pairwise_ofNotes notes) sorted fun id => ?_
    rw [filter_id_ofNotes, same]

theorem note?_ofNotes (notes : List Note) (id : NoteId) :
    (ofNotes notes).note? id = (notes.filter fun note => note.id = id).getLast? := by
  rw [note?, filter_id_ofNotes]

/-- Where no two notes share an id, the order in which they are given does not matter. -/
theorem ofNotes_perm (distinct : (notes.map Note.id).Nodup) (reordered : others.Perm notes) :
    ofNotes others = ofNotes notes := by
  apply eq_of_notes_eq
  have alike : (ofNotes others).notes.Perm (ofNotes notes).notes :=
    (List.mergeSort_perm others Note.idLe).trans
      (reordered.trans (List.mergeSort_perm notes Note.idLe).symm)
  refine alike.eq_of_pairwise ?_ (pairwise_ofNotes others) (pairwise_ofNotes notes)
  intro a b left right before after
  have among (note : Note) (member : note ∈ (ofNotes notes).notes) : note ∈ notes :=
    List.mem_mergeSort.1 member
  exact List.inj_on_of_nodup_map distinct (among a (alike.mem_iff.1 left)) (among b right)
    (Int32.le_antisymm before after)

/-- **The index of a chart.** The notes of a chart are the stable sort of what it is made of by id:
the only arrangement in the order of the ids that has the same notes of each id in the same order.
An id refers to the last note that has it, and to none exactly if no note has it. Under an id
stands in the index the place of the last note of the chart that has it, so the index leads to the
note that the id refers to. Writing a chart and making it again changes nothing, and where no two
notes share an id, the order in which they are given does not matter. -/
theorem ofNotes_indexed (notes : List Note) :
    (∀ arranged : List Note, (ofNotes notes).notes = arranged ↔
      (arranged.Pairwise fun a b => a.id ≤ b.id) ∧
        ∀ id, (arranged.filter fun note => note.id = id) =
          notes.filter fun note => note.id = id) ∧
    (ofNotes notes).notes.Perm notes ∧
    (∀ id note, (ofNotes notes).note? id = some note ↔ ∃ place, Note.IsLast notes id place note) ∧
    (∀ id : NoteId, (ofNotes notes).note? id = none ↔ ∀ note ∈ notes, note.id ≠ id) ∧
    (∀ (id : NoteId) (place : Nat), (ofNotes notes).places[id]? = some place ↔
      ∃ note, Note.IsLast (ofNotes notes).notes id place note) ∧
    (∀ id, (ofNotes notes).indexed? id = (ofNotes notes).note? id) ∧
    ofRecord (ofNotes notes).toRecord = ofNotes notes ∧
    ((notes.map Note.id).Nodup → ∀ others, others.Perm notes → ofNotes others = ofNotes notes) := by
  refine ⟨fun arranged => notes_ofNotes_eq_iff, List.mergeSort_perm notes Note.idLe, ?_, ?_,
    fun id place => getElem?_placesOf_eq_some_iff, indexed?_eq_note? _, ?_,
    fun distinct others => ofNotes_perm distinct⟩
  · intro id note
    rw [note?_ofNotes, Note.getLast?_filter_eq_some_iff]
  · intro id
    rw [note?_ofNotes, List.getLast?_eq_none_iff, List.filter_eq_nil_iff]
    simp only [decide_eq_true_eq]
  · -- the notes of a chart are in order already, so sorting them again keeps them
    apply eq_of_notes_eq
    exact List.mergeSort_of_pairwise (ofNotes notes).sorted

/-! Two notes of one id around a third: the id refers to the one that is given last. -/

def indexNote (id : NoteId) (kind : Int32) : Note :=
  ⟨id, kind, .zero false, 0, .zero false, .zero false, .zero false⟩

theorem ofNotes_indexed_doubled :
    (ofNotes [indexNote 2 0, indexNote 1 0, indexNote 2 1]).note? 2 = some (indexNote 2 1) ∧
    (ofNotes [indexNote 2 0, indexNote 1 0, indexNote 2 1]).note? 3 = none ∧
    ([indexNote 2 1, indexNote 1 0].map Note.id).Nodup ∧
    ofNotes [indexNote 1 0, indexNote 2 1] = ofNotes [indexNote 2 1, indexNote 1 0] := by
  obtain ⟨-, -, last, free, -, -, -, -⟩ :=
    ofNotes_indexed [indexNote 2 0, indexNote 1 0, indexNote 2 1]
  obtain ⟨-, -, -, -, -, -, -, reordered⟩ := ofNotes_indexed [indexNote 2 1, indexNote 1 0]
  have distinct : ([indexNote 2 1, indexNote 1 0].map Note.id).Nodup := by decide
  refine ⟨(last 2 _).2 ⟨2, [indexNote 2 0, indexNote 1 0], [], rfl, rfl, rfl, nofun⟩,
    (free 3).2 (by decide), distinct, reordered distinct _ (.swap ..)⟩

end Chart
end Storyboard
