import Mathlib.Data.List.Nodup
import Storyboard.Chart.Basic

/-!
# Notes of a chart

An id refers to a note of the chart that has it, and where no two notes share an id, to the only
one. The notes stand in the order of their ids.
-/
namespace Storyboard.Chart

variable {chart : Chart} {id : NoteId}

theorem id_of_note? {note : Note} (found : chart.note? id = some note) :
    note ∈ chart.notes ∧ note.id = id := by
  have member := List.mem_of_getLast? found
  rw [List.mem_filter, decide_eq_true_eq] at member
  exact member

/-- Every id of a note in the chart refers to a note. -/
theorem exists_note? {note : Note} (member : note ∈ chart.notes) :
    ∃ other, chart.note? note.id = some other := by
  have listed : note ∈ chart.notes.filter fun other => other.id = note.id := by
    simp [member]
  exact Option.isSome_iff_exists.1 (List.getLast?_isSome.2 (List.ne_nil_of_mem listed))

/-- Where no two notes share an id, the id of a note refers to it. -/
theorem note?_of_nodup (distinct : (chart.notes.map Note.id).Nodup) {note : Note}
    (member : note ∈ chart.notes) : chart.note? note.id = some note := by
  obtain ⟨other, found⟩ := exists_note? member
  obtain ⟨among, same⟩ := id_of_note? found
  rw [found, List.inj_on_of_nodup_map distinct among member same]

/-- The ids of some of the notes, in the order of the chart, are in increasing order. -/
theorem pairwise_ids_filter (chart : Chart) (kept : Note → Bool) :
    ((chart.notes.filter kept).map Note.id).Pairwise (· ≤ ·) := by
  rw [List.pairwise_map]
  exact (chart.sorted.filter kept).imp of_decide_eq_true

end Storyboard.Chart
