import Storyboard.Declaration.Outline
import Storyboard.Proofs.Faults

/-!
# Where the fields of a variant come from

Fanning out a declaration changes its times and its note only. Laying it over templates gives it
fields of theirs, each field as a whole from one fragment. So what is nested in a variant stands
that way in the document: in the declaration itself, or in one template.
-/
namespace Storyboard

namespace Fanout

/-- The fields that fanning out may change. -/
def changed : List String := "note" :: timeFields

theorem timeItems?_eq_some {node : Node} {field : String} {items : List Json}
    (fans : timeItems? node = some (field, items)) :
    field ∈ timeFields ∧ Keyed.get? node field = some (.arr items) := by
  obtain ⟨found, inside, given⟩ := List.exists_of_findSome?_eq_some fans
  split at given
  · next present =>
    cases given
    exact ⟨inside, present⟩
  · cases given

theorem get?_of_mem_times {node variant : Node} {key : String} (member : variant ∈ times node)
    (kept : key ∉ changed) : Keyed.get? variant key = Keyed.get? node key := by
  unfold times at member
  split at member
  · rw [List.mem_singleton.1 member]
  · next field items fans =>
    obtain ⟨item, _, rfl⟩ := List.mem_map.1 member
    rw [Keyed.get?_insert, if_neg]
    rintro rfl
    exact kept (List.mem_cons_of_mem _ (timeItems?_eq_some fans).1)

theorem get?_of_mem_notes {chart : Chart} {node variant : Node} {variants : List Node}
    {key : String} (fanned : notes chart node = .ok variants) (member : variant ∈ variants)
    (kept : key ∉ changed) : Keyed.get? variant key = Keyed.get? node key := by
  obtain ⟨ids?, _, rfl⟩ := Result.map_eq_ok_iff.1 fanned
  cases ids? with
  | none => rw [List.mem_singleton.1 member]
  | some ids =>
    obtain ⟨id, _, rfl⟩ := List.mem_map.1 member
    rw [Keyed.get?_insert, if_neg]
    rintro rfl
    exact kept (List.mem_cons_self ..)

end Fanout

/-- Fanning out keeps every field but the times and the note. -/
theorem get?_of_mem_fanOut {chart : Chart} {node variant : Node} {variants : List Node}
    {key : String} (fanned : fanOut chart node = .ok variants) (member : variant ∈ variants)
    (kept : key ∉ Fanout.changed) : Keyed.get? variant key = Keyed.get? node key := by
  obtain ⟨lists, each, rfl⟩ := Result.map_eq_ok_iff.1 fanned
  obtain ⟨list, inside, among⟩ := List.mem_flatten.1 member
  obtain ⟨timed, timedMember, notes⟩ := Result.exists_of_mem_mapM each inside
  rw [Fanout.get?_of_mem_notes notes among kept, Fanout.get?_of_mem_times timedMember kept]

namespace Keyed

variable {α : Type}

theorem mem_of_get? {entries : Keyed α} {key : String} {value : α}
    (given : get? entries key = some value) : (key, value) ∈ entries := by
  induction entries with
  | nil => cases given
  | cons entry rest ih =>
    rw [get?] at given
    split at given
    · next same =>
      cases given
      subst same
      exact List.mem_cons_self ..
    · exact List.mem_cons_of_mem _ (ih given)

end Keyed

namespace Templates

variable {templates : Templates}

/-- Only fragments of the registry are followed. -/
theorem exists_of_mem_follow {fuel : Nat} {seen : List String} {reference : Option Json}
    {fragments : List Node} {fragment : Node}
    (followed : templates.follow fuel seen reference = .ok fragments)
    (member : fragment ∈ fragments) : ∃ entry ∈ templates.fragments, entry.2 = fragment := by
  fun_induction follow templates fuel seen reference generalizing fragments with
  | case1 | case2 =>
    cases followed
    cases member
  | case6 _ _ _ _ known _ ih =>
    obtain ⟨below, further, same⟩ := Result.bind_eq_ok_iff.1 followed
    cases same
    rcases List.mem_cons.1 member with rfl | later
    · exact ⟨_, Keyed.mem_of_get? known, rfl⟩
    · exact ih further later
  | case3 | case4 | case5 | case7 => cases followed

theorem get?_layered_cons (fragment : Node) (fragments : List Node) {key : String}
    (kept : key ≠ "template") : Keyed.get? (layered (fragment :: fragments)) key =
      (Keyed.get? fragment key).or (Keyed.get? (layered fragments) key) := by
  rw [layered, List.foldr_cons, Keyed.get?_overlay, Keyed.get?_erase, if_neg kept.symm]
  rfl

/-- The first fragment that has a field gives it. -/
theorem get?_layered (fragments : List Node) {key : String} (kept : key ≠ "template") :
    Keyed.get? (layered fragments) key = none ∨
      ∃ fragment ∈ fragments, Keyed.get? (layered fragments) key = Keyed.get? fragment key := by
  induction fragments with
  | nil => exact .inl rfl
  | cons fragment rest ih =>
    rw [get?_layered_cons fragment rest kept]
    cases given : Keyed.get? fragment key with
    | some value => exact .inr ⟨fragment, List.mem_cons_self .., given.symm⟩
    | none =>
      rw [Option.none_or]
      refine ih.imp_right ?_
      rintro ⟨other, member, same⟩
      exact ⟨other, List.mem_cons_of_mem _ member, same⟩

/-- A declaration that is laid over its templates keeps the fields that it has. -/
theorem get?_of_given {variant node : Node} {key : String} {value : Json}
    (merged : templates.complete variant = .ok node) (kept : key ≠ "template")
    (given : Keyed.get? variant key = some value) : Keyed.get? node key = some value := by
  unfold complete at merged
  split at merged
  · cases merged
    exact given
  · obtain ⟨fragments, _, same⟩ := Result.bind_eq_ok_iff.1 merged
    cases same
    rw [Keyed.get?_overlay, Keyed.get?_erase, if_neg kept.symm, given, Option.some_or]

/-- Every field of a declaration that is laid over its templates is one of its own, or one of a
fragment. -/
theorem get?_of_complete {variant node : Node} {key : String}
    (merged : templates.complete variant = .ok node) (kept : key ≠ "template") :
    Keyed.get? node key = Keyed.get? variant key ∨
      ∃ entry ∈ templates.fragments, Keyed.get? node key = Keyed.get? entry.2 key := by
  unfold complete at merged
  split at merged
  · cases merged
    exact .inl rfl
  · next reference _ =>
    obtain ⟨fragments, followed, same⟩ := Result.bind_eq_ok_iff.1 merged
    cases same
    rw [Keyed.get?_overlay, Keyed.get?_erase, if_neg kept.symm]
    cases Keyed.get? variant key with
    | some value => exact .inl rfl
    | none =>
      rw [Option.none_or]
      refine (get?_layered fragments kept).imp_right ?_
      rintro ⟨fragment, member, same⟩
      obtain ⟨entry, inside, rfl⟩ := exists_of_mem_follow followed member
      exact ⟨entry, inside, same⟩

end Templates
end Storyboard
