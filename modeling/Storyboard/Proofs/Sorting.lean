import Mathlib.Data.List.Cycle

/-!
# Stable sorting

Sorting by merging leaves items that are tied in the order in which they came, whatever decides
that they are tied.
-/
namespace Storyboard.Sorting

variable {α : Type} {le : α → α → Bool} {kept : α → Bool}

/-- Sorting leaves tied items in their order: picking some that are all tied gives the same before
and after it. -/
theorem filter_mergeSort (trans : ∀ a b c, le a b = true → le b c = true → le a c = true)
    (total : ∀ a b, (le a b || le b a) = true)
    (tied : ∀ a b, kept a = true → kept b = true → le a b = true) (items : List α) :
    (items.mergeSort le).filter kept = items.filter kept := by
  have alike : (items.filter kept).Pairwise fun a b => le a b = true := by
    refine List.pairwise_of_forall_mem_list ?_
    intro a left b right
    exact tied a b (List.mem_filter.1 left).2 (List.mem_filter.1 right).2
  -- tied items are in order already, so sorting keeps them as a sublist
  have inside := (List.sublist_mergeSort trans total alike List.filter_sublist).filter kept
  rw [List.filter_filter] at inside
  simp only [Bool.and_self] at inside
  -- sorting loses none of them, so the sublist is all of them
  refine (inside.eq_of_length ?_).symm
  exact ((List.mergeSort_perm items le).filter _).length_eq.symm

end Storyboard.Sorting
