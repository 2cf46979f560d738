import Storyboard.Proofs.FilledTexts
import Storyboard.Proofs.NoteLaw
import Storyboard.Proofs.Numbering

/-!
# Loaded objects

What holds of every object in the tables of a document of declarations, wherever its fields come
from: it stands under its id, it has states and they are in order, its ids exclude each other as
they should, and no placeholder is left in them. Each part is made sure of at another stage of the
load: the identity check, the making of the states, and the filling in of the ids.
-/
namespace Storyboard

variable {category : Category}

/-! ## States -/

namespace State

theorem timeLe_trans (a b c : State category) (first : a.timeLe b = true)
    (next : b.timeLe c = true) : a.timeLe c = true := by
  simp only [timeLe, Binary64.totalLe, decide_eq_true_eq] at first next ⊢
  exact Int.le_trans first next

theorem timeLe_total (a b : State category) : (a.timeLe b || b.timeLe a) = true := by
  simp only [timeLe, Binary64.totalLe, Bool.or_eq_true, decide_eq_true_eq]
  exact Int.le_total a.time.key b.time.key

end State

namespace Timeline

variable {chart : Chart} {templates : Templates} {binding after : Binding} {root : Node}

theorem ordered_of_build {states : List (State category)}
    (built : build category chart templates binding root = .ok (states, after)) :
    states.Pairwise fun a b => a.time.totalLe b.time = true := by
  obtain ⟨tree, _, _, rfl⟩ := exists_makes_of_build built
  exact List.pairwise_mergeSort State.timeLe_trans State.timeLe_total _

/-- The declaration itself always has a state. -/
theorem ne_nil_of_build {states : List (State category)}
    (built : build category chart templates binding root = .ok (states, after)) : states ≠ [] := by
  obtain ⟨tree, _, _, rfl⟩ := exists_makes_of_build built
  apply List.ne_nil_of_length_pos
  rw [List.length_mergeSort, List.length_map, Moment.inOrder_eq]
  exact Nat.succ_pos _

end Timeline

/-! ## Ids -/

namespace Prepared

variable {chart : Chart} {templates : Templates}

/-- A target excludes an id and a parent. -/
theorem identify_excludes {node : Node} {id targetId parentId : Option String}
    (identified : identify node = .ok (id, targetId, parentId)) :
    (id = none ∨ targetId = none) ∧ (targetId = none ∨ parentId = none) := by
  obtain ⟨first, _, identified⟩ := Result.bind_eq_ok_iff.1 identified
  obtain ⟨second, _, identified⟩ := Result.bind_eq_ok_iff.1 identified
  obtain ⟨third, _, identified⟩ := Result.bind_eq_ok_iff.1 identified
  split at identified
  · cases identified
  · next noId =>
    split at identified
    · cases identified
    · next noParent =>
      cases identified
      simp only [Bool.and_eq_true, not_and, Bool.not_eq_true, Option.isSome_eq_false_iff,
        Option.isNone_iff_eq_none] at noId noParent
      cases id <;> cases targetId <;> simp_all

/-- A declaration is prepared after it is laid over its templates. -/
theorem exists_merged_of_ofNode {node : Node} {prepared : Prepared category}
    (made : ofNode category chart templates node = .ok prepared) :
    ∃ merged, templates.complete (withDefaultTime category node) = .ok merged ∧
      identify merged = .ok (prepared.id, prepared.targetId, prepared.parentId) ∧
      Timeline.build category chart templates none merged =
        .ok (prepared.states, prepared.binding) := by
  obtain ⟨merged, completed, _⟩ := Result.mapError_bind_eq_ok_iff.1 made
  obtain ⟨identified, built, _⟩ := exists_of_ofNode completed made
  exact ⟨merged, completed, identified, built⟩

/-- An object has the id of its declaration, filled in, or the next number. -/
theorem finish_eq_ok {prepared : Prepared category} {counter : Nat} {object : StageObject category}
    (done : (prepared.finish counter).1 = .ok object) :
    (match prepared.id with
      | some text => prepared.filled text = .ok object.id
      | none => object.id = numberedId category (counter + 1)) ∧
    prepared.filled? prepared.targetId = .ok object.targetId ∧
    prepared.filled? prepared.parentId = .ok object.parentId ∧
    object.states = prepared.states := by
  cases given : prepared.id with
  | some text =>
    simp only [finish, given, Result.bind_eq_ok_iff] at done
    obtain ⟨id, filled, targetId, target, parentId, parent, same⟩ := done
    cases same
    exact ⟨filled, target, parent, rfl⟩
  | none =>
    simp only [finish, given, Result.ok_bind, Result.bind_eq_ok_iff] at done
    obtain ⟨targetId, target, parentId, parent, same⟩ := done
    cases same
    exact ⟨rfl, target, parent, rfl⟩

theorem eq_some_of_filled? {prepared : Prepared category} {given : Option String} {text : String}
    (done : prepared.filled? given = .ok (some text)) :
    ∃ source, given = some source ∧ prepared.filled source = .ok text := by
  cases given with
  | none => cases done
  | some source =>
    obtain ⟨filled, made, same⟩ := Result.map_eq_ok_iff.1 done
    cases same
    exact ⟨source, rfl, made⟩

theorem toList_numberedId (category : Category) (number : Nat) :
    (numberedId category number).toList =
      "auto:".toList ++ category.key.toList ++ ":".toList ++ number.repr.toList := by
  rw [← String.toList_append, ← String.toList_append, ← String.toList_append]
  rfl

theorem free_numberedId (category : Category) (number : Nat) :
    Placeholder.Free (numberedId category number) := by
  apply Placeholder.free_of_not_mem
  rw [toList_numberedId]
  intro member
  rcases List.mem_append.1 member with fixed | digits
  · revert fixed
    cases category <;> decide
  · exact Placeholder.apart_repr number '$' digits (by decide)

end Prepared

/-! ## Objects -/

/-- What holds of every object that is loaded from declarations. -/
structure StageObject.Sound (object : StageObject category) : Prop where
  shown : object.states ≠ []
  ordered : object.states.Pairwise fun a b => a.time.totalLe b.time = true
  single : ¬ (object.targetId ≠ none ∧ object.parentId ≠ none)
  targeting : object.targetId ≠ none →
    ∃ number, 1 ≤ number ∧ object.id = Prepared.numberedId category number
  idFree : Placeholder.Free object.id
  targetFree : ∀ text, object.targetId = some text → Placeholder.Free text
  parentFree : ∀ text, object.parentId = some text → Placeholder.Free text

namespace Prepared

variable {chart : Chart} {templates : Templates}

theorem filled?_none_iff {prepared : Prepared category} {given made : Option String}
    (done : prepared.filled? given = .ok made) : made = none ↔ given = none := by
  cases given with
  | none =>
    cases done
    exact Iff.rfl
  | some source =>
    obtain ⟨filled, _, same⟩ := Result.map_eq_ok_iff.1 done
    cases same
    exact iff_of_false nofun nofun

theorem sound_of_finish {node : Node} {prepared : Prepared category} {counter : Nat}
    {object : StageObject category}
    (made : ofNode category chart templates node = .ok prepared)
    (done : (prepared.finish counter).1 = .ok object) : object.Sound := by
  obtain ⟨merged, _, identified, built⟩ := exists_merged_of_ofNode made
  obtain ⟨noId, noParent⟩ := identify_excludes identified
  obtain ⟨named, target, parent, states⟩ := finish_eq_ok done
  have freeOf {given : Option String} {text : String}
      (filled : prepared.filled? given = .ok (some text)) : Placeholder.Free text := by
    obtain ⟨source, _, filled⟩ := eq_some_of_filled? filled
    exact Placeholder.free_of_fillIn filled
  constructor
  · rw [states]
    exact Timeline.ne_nil_of_build built
  · rw [states]
    exact Timeline.ordered_of_build built
  · rw [Ne, Ne, filled?_none_iff target, filled?_none_iff parent]
    rintro ⟨hasTarget, hasParent⟩
    exact noParent.elim hasTarget hasParent
  · rw [Ne, filled?_none_iff target]
    intro hasTarget
    rw [noId.resolve_right hasTarget] at named
    exact ⟨counter + 1, Nat.succ_pos counter, named⟩
  · cases given : prepared.id with
    | none =>
      rw [given] at named
      rw [named]
      exact free_numberedId category (counter + 1)
    | some text =>
      rw [given] at named
      exact Placeholder.free_of_fillIn named
  · intro text same
    exact freeOf (same ▸ target)
  · intro text same
    exact freeOf (same ▸ parent)

end Prepared

namespace Declarations

variable {chart : Chart} {templates : Templates}

/-- An object among the outcomes of variants is made of one of them. -/
theorem exists_prepared_of_mem_objects {counter : Nat} {found : List Variant}
    {object : StageObject category}
    (member : object ∈
      Outcome.objects (outcomesFrom chart templates category counter found)) :
    ∃ index node prepared number, ⟨index, .ok node⟩ ∈ found ∧
      Prepared.ofNode category chart templates node = .ok prepared ∧
      (prepared.finish number).1 = .ok object := by
  obtain ⟨outcome, among, given⟩ := List.mem_filterMap.1 member
  obtain ⟨⟨front, ⟨index, node⟩⟩, inside, rfl⟩ := List.mem_map.1 among
  have loaded := Result.eq_ok_of_toOption given
  rw [Variant.result_outcome] at loaded
  obtain ⟨prepared, made, done⟩ := Result.bind_eq_ok_iff.1 loaded
  obtain ⟨node, rfl, made⟩ := Result.mapError_bind_eq_ok_iff.1 made
  exact ⟨index, node, prepared, _, mem_of_mem_withFront inside, made,
    Result.mapError_eq_ok_iff.1 done⟩

end Declarations

namespace Board

variable {chart : Chart} {root : Node}

/-- **Objects of a load.** In every table of a board that is loaded from declarations, look-ups find
an object under its own id and under no other, and every object is sound: it has states, in the
order of their times; it has no target beside a parent, and a target only under a generated id; and
no placeholder is left in its ids. -/
theorem ofJson_sound {strict : Bool} {result : Board} (raw : isCompiled root = false)
    (loaded : ofJson chart strict (.obj root) = .ok result) (category : Category) :
    (∀ id object, (result.tables.get category).get? id = some object ↔
      object ∈ (result.tables.get category).objects ∧ object.id = id) ∧
    ∀ object ∈ (result.tables.get category).objects, object.Sound := by
  refine ⟨fun id object => Table.get?_eq_some_iff, fun object member => ?_⟩
  have found := Table.get?_eq_some_iff.2 ⟨member, rfl⟩
  rw [(templates_of_ofJson raw loaded).2, Declarations.get?_tables_board] at found
  obtain ⟨_, node, prepared, number, _, made, done⟩ :=
    Declarations.exists_prepared_of_mem_objects (List.mem_of_find?_eq_some found)
  exact Prepared.sound_of_finish made done

/-! A text for each of two notes, attached to a target of its note; the target comes from the lower
of two templates. -/

def ringChart : Chart where
  notes := [⟨1, 0, .zero false, 0, .ofInt 1, .ofInt 2, .ofInt 3⟩,
    ⟨2, 0, .zero false, 0, .ofInt 4, .ofInt 5, .ofInt 6⟩]
  sorted := by simp [Note.idLe]

def ringRoot : Node :=
  [("templates", .obj
      [("base", .obj [("target_id", .str "ring_$note")]),
       ("pulse", .obj [("states", .arr [.obj [("add_time", .int (-1))]]),
         ("template", .str "base")])]),
   ("texts", .arr
      [.obj [("note", .arr [.int 1, .int 2]), ("template", .str "pulse"),
        ("time", .str "start:$note")]])]

theorem ofJson_sound_rings :
    isCompiled ringRoot = false ∧
    ∃ result, ofJson ringChart true (.obj ringRoot) = .ok result ∧
      (result.tables.get .text).objects.map (fun object => (object.id, object.targetId)) =
        [("auto:texts:1", some "ring_1"), ("auto:texts:2", some "ring_2")] ∧
      ∀ object ∈ (result.tables.get .text).objects, object.Sound := by
  have raw : isCompiled ringRoot = false := by decide
  have computed :
      (ofJson ringChart true (.obj ringRoot)).toOption.map (fun result =>
          (result.tables.get .text).objects.map fun object => (object.id, object.targetId)) =
        some [("auto:texts:1", some "ring_1"), ("auto:texts:2", some "ring_2")] := by
    decide +kernel
  obtain ⟨result, given, objects⟩ := Option.map_eq_some_iff.1 computed
  have loaded := Result.eq_ok_of_toOption given
  exact ⟨raw, result, loaded, objects, (ofJson_sound raw loaded .text).2⟩

end Board
end Storyboard
