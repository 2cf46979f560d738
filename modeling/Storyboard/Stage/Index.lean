import Std.Data.TreeMap.Lemmas
import Storyboard.Stage.Object

/-!
# Indexes of stage objects

An index is a table in the making: it keeps the objects of one category under their ids in a search
tree, so that a document may hold many of them. The table of an index holds the same objects in
the order of their ids.

Main statement: adding an object to an index comes to the same as adding it to the table
(`map_toTable_add?`). An index is therefore never looked into; whatever is known of tables holds.
-/
namespace Storyboard

structure ObjectIndex (category : Category) where
  tree : Std.TreeMap String (StageObject category)
  keyed : ∀ entry ∈ tree.toList, entry.2.id = entry.1

namespace ObjectIndex

variable {category : Category}

def empty : ObjectIndex category := ⟨∅, by simp⟩

theorem toList_insert_perm {tree : Std.TreeMap String (StageObject category)}
    {object : StageObject category} (fresh : object.id ∉ tree) :
    (tree.insert object.id object).toList.Perm ((object.id, object) :: tree.toList) := by
  refine Std.TreeMap.toList_insert_perm.trans (List.Perm.cons _ ?_)
  rw [List.filter_eq_self.2]
  rintro ⟨id, other⟩ member
  have held : id ∈ tree :=
    Std.TreeMap.mem_iff_isSome_getElem?.2
      (by rw [Std.TreeMap.mem_toList_iff_getElem?_eq_some.1 member]; rfl)
  have differs : object.id ≠ id := fun same => fresh (same ▸ held)
  simp [differs]

/-- Adds an object unless its id is taken. -/
def add? (index : ObjectIndex category) (object : StageObject category) :
    Option (ObjectIndex category) :=
  if fresh : object.id ∉ index.tree then
    some ⟨index.tree.insert object.id object, fun entry member => by
      rcases List.mem_cons.1 ((toList_insert_perm fresh).mem_iff.1 member) with rfl | member
      · rfl
      · exact index.keyed entry member⟩
  else none

theorem compare_eq_lt_iff {a b : String} : compare a b = .lt ↔ a < b :=
  compareOfLessAndEq_eq_lt

/-- The table of the objects. -/
def toTable (index : ObjectIndex category) : Table category where
  objects := index.tree.toList.map Prod.snd
  sorted := by
    refine List.pairwise_map.2 (Std.TreeMap.ordered_keys_toList.imp_of_mem ?_)
    intro a b inA inB before
    rw [index.keyed a inA, index.keyed b inB]
    exact compare_eq_lt_iff.1 before

@[simp] theorem toTable_empty : (empty : ObjectIndex category).toTable = Table.empty := rfl

theorem mem_tree_iff (index : ObjectIndex category) (id : String) :
    id ∈ index.tree ↔ ∃ object ∈ index.toTable.objects, object.id = id := by
  constructor
  · intro held
    obtain ⟨object, found⟩ :=
      Option.isSome_iff_exists.1 (Std.TreeMap.mem_iff_isSome_getElem?.1 held)
    have member := Std.TreeMap.mem_toList_iff_getElem?_eq_some.2 found
    exact ⟨object, List.mem_map_of_mem member, index.keyed _ member⟩
  · rintro ⟨object, member, rfl⟩
    obtain ⟨⟨id, other⟩, held, rfl⟩ := List.mem_map.1 member
    rw [index.keyed _ held]
    exact Std.TreeMap.mem_iff_isSome_getElem?.2
      (by rw [Std.TreeMap.mem_toList_iff_getElem?_eq_some.1 held]; rfl)

/-- Adding to an index is adding to its table. -/
theorem map_toTable_add? (index : ObjectIndex category) (object : StageObject category) :
    (index.add? object).map toTable = index.toTable.add? object := by
  have taken := index.mem_tree_iff object.id
  unfold add? Table.add?
  split
  · next fresh =>
    have free : ∀ other ∈ index.toTable.objects, other.id ≠ object.id :=
      fun other member same => fresh (taken.2 ⟨other, member, same⟩)
    rw [dif_pos free, Option.map_some, Option.some.injEq, Table.mk.injEq]
    refine List.Perm.eq_of_pairwise (fun a b _ _ before after => ?_)
      (toTable _).sorted (Table.pairwise_place index.toTable.sorted free) ?_
    · exact absurd (String.lt_trans before after) (String.lt_irrefl a.id)
    · exact ((toList_insert_perm fresh).map Prod.snd).trans Table.perm_place.symm
  · next held =>
    obtain ⟨other, member, same⟩ := taken.1 (Decidable.not_not.1 held)
    rw [dif_neg fun free => free other member same, Option.map_none]

end ObjectIndex
end Storyboard
