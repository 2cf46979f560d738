import Storyboard.Proofs.Nesting
import Storyboard.Proofs.NoteLaw
import Storyboard.Proofs.Numbering

/-!
# Loads that come to an end

The load of a document of declarations goes on without end if making the states of some declaration
does, wherever the declaration stands: nothing that is loaded before or after it is ever seen. This
takes a template that is nested in itself. Where there is none, every load comes to an end.
-/
namespace Storyboard

open Relation (TransGen)

variable {category : Category} {chart : Chart} {templates : Templates}

namespace Result

variable {ε α β : Type}

theorem failed_ne_endless {x : Except ε α} : x.mapError Stop.failed ≠ .error .endless := by
  cases x <;> simp [Except.mapError]

/-- Behind a step that can do no worse than fail, work goes on without end if the rest does. -/
theorem failed_bind_eq_endless_iff {x : Except ε α} {f : α → Except (Stop ε) β} :
    x.mapError Stop.failed >>= f = .error .endless ↔ ∃ a, x = .ok a ∧ f a = .error .endless := by
  rw [bind_eq_error_iff, or_iff_right failed_ne_endless]
  simp only [mapError_eq_ok_iff]

end Result

namespace Prepared

theorem ofNode_endless_iff {node : Node} :
    ofNode category chart templates node = .error .endless ↔
      ∃ merged, templates.complete (withDefaultTime category node) = .ok merged ∧
        ∃ names, identify merged = .ok names ∧
          Timeline.build category chart templates none merged = .error .endless := by
  rw [ofNode, Result.failed_bind_eq_endless_iff]
  simp only [Result.failed_bind_eq_endless_iff]
  refine exists_congr fun merged => and_congr_right fun _ => exists_congr fun names =>
    and_congr_right fun _ => ?_
  -- nothing is done behind the states
  rw [Result.bind_eq_error_iff]
  refine or_iff_left ?_
  rintro ⟨_, _, impossible⟩
  cases impossible

end Prepared

namespace Declarations

/-- Loading a variant goes on without end: it is merged with its templates, its identity is in
order and its own time and attributes can be read, but from there the walk along what is nested
goes down as far as one likes. -/
def Variant.GoesOn (chart : Chart) (templates : Templates) (category : Category)
    (variant : Variant) : Prop :=
  ∃ node merged names after, variant.node = .ok node ∧
    templates.complete (Prepared.withDefaultTime category node) = .ok merged ∧
    Prepared.identify merged = .ok names ∧
    Timeline.passNode category chart none merged = .ok after ∧
    ∀ room, Descends category chart templates room (merged, after)

theorem Variant.prepared_endless_iff {variant : Variant} :
    variant.prepared chart templates category = .error .endless ↔
      variant.GoesOn chart templates category := by
  rw [prepared, Result.failed_bind_eq_endless_iff]
  simp only [Prepared.ofNode_endless_iff, Timeline.build_endless_iff]
  constructor
  · rintro ⟨node, given, merged, completed, names, identified, after, passed, down⟩
    exact ⟨node, merged, names, after, given, completed, identified, passed, down⟩
  · rintro ⟨node, merged, names, after, given, completed, identified, passed, down⟩
    exact ⟨node, given, merged, completed, names, identified, after, passed, down⟩

theorem Variant.ends_eq_false_iff {variant : Variant} :
    variant.ends chart templates category = false ↔ variant.GoesOn chart templates category := by
  rw [← prepared_endless_iff, ends]
  cases variant.prepared chart templates category with
  | ok prepared => simp
  | error stop => cases stop <;> simp

variable {root : Node}

theorem ends_eq_false_iff : ends chart templates root = false ↔
    ∃ category, ∃ variant ∈ variantsIn chart root category,
      variant.GoesOn chart templates category := by
  simp only [ends, List.all_eq_false, Bool.not_eq_true, Variant.ends_eq_false_iff]
  constructor
  · rintro ⟨category, _, variant, member, goesOn⟩
    exact ⟨category, variant, member, goesOn⟩
  · rintro ⟨category, variant, member, goesOn⟩
    exact ⟨category, by cases category <;> decide, variant, member, goesOn⟩

/-- Where no template is nested in itself, the work on every element comes to an end. -/
theorem ends_of_acyclic (acyclic : ∀ id, ¬ TransGen templates.Nests id id) :
    ends chart templates root = true := by
  refine Bool.eq_true_of_not_eq_false fun endless => ?_
  obtain ⟨category, variant, _, node, merged, names, after, _, _, _, passed, down⟩ :=
    ends_eq_false_iff.1 endless
  exact Timeline.build_ne_endless acyclic category chart none merged
    (Timeline.build_endless_iff.2 ⟨after, passed, down⟩)

end Declarations

namespace Board

open Declarations

variable {root : Node}

theorem ofJson_eq_endless_iff (raw : isCompiled root = false) {strict : Bool} :
    ofJson chart strict (.obj root) = .error .endless ↔
      ∃ templates, Templates.ofJson (Keyed.get? root "templates") = .ok templates ∧
        ∃ category, ∃ variant ∈ variantsIn chart root category,
          variant.GoesOn chart templates category := by
  rw [ofJson_of_raw raw, Result.failed_bind_eq_endless_iff]
  refine exists_congr fun templates => and_congr_right fun _ => ?_
  rw [← ends_eq_false_iff]
  cases finished : ends chart templates root with
  | false => exact iff_of_true (withTemplates_of_endless finished strict) rfl
  | true =>
    rw [withTemplates_of_ends finished]
    exact iff_of_false Result.failed_ne_endless nofun

end Board
end Storyboard
