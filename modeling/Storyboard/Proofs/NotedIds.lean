import Std.Data.String.ToInt
import Storyboard.Proofs.GeneratedIds
import Storyboard.Proofs.Isolation
import Storyboard.Proofs.Lineage
import Storyboard.Proofs.Products

/-!
# Ids with the note of a variant

A text with the placeholder tells which note it was filled in with. So a declaration that fans out
over different notes, under an id with the placeholder, stands for objects of different ids, and
none of them takes the id of another: only an object in front of the whole declaration can.

Main statement: `Declarations.ofCategory_noted`.
-/
namespace Storyboard

open Result (FailsOnlyWith)

/-! ## Filled texts tell their note -/

namespace Placeholder

/-- How often the placeholder occurs in a text. -/
def places : List Char → Nat
  | [] => 0
  | '$' :: 'n' :: 'o' :: 't' :: 'e' :: rest => places rest + 1
  | _ :: rest => places rest

theorem occurs_iff_places {text : List Char} : occurs text = true ↔ 0 < places text := by
  fun_induction occurs text with
  | case1 => simp [places]
  | case2 rest => exact iff_of_true rfl (Nat.succ_pos _)
  | case3 c rest other ih =>
    rw [ih, places]
    exact other

/-- Each place of the placeholder gives its length for that of the value. -/
theorem length_fill (value text : List Char) :
    (fill value text).length + places text * word.length =
      text.length + places text * value.length := by
  fun_induction places text with
  | case1 => simp [fill]
  | case2 rest ih =>
    have filled : (fill value ('$' :: 'n' :: 'o' :: 't' :: 'e' :: rest)).length =
        value.length + (fill value rest).length := List.length_append
    have length : word.length = 5 := by decide
    rw [filled, Nat.succ_mul, Nat.succ_mul]
    simp only [List.length_cons]
    omega
  | case3 c rest other ih =>
    rw [fill, List.length_cons, List.length_cons]
    · omega
    · exact other

/-- A text with the placeholder tells the value that it was filled in with. -/
theorem fill_inj {value other text : List Char} (refers : occurs text = true)
    (same : fill value text = fill other text) : value = other := by
  -- texts of one length were filled in with values of one length
  have long : value.length = other.length := by
    have first := length_fill value text
    have second := length_fill other text
    rw [same] at first
    exact Nat.eq_of_mul_eq_mul_left (occurs_iff_places.1 refers) (by omega)
  -- and then the values stand at the first place of the placeholder
  fun_induction occurs text with
  | case1 => cases refers
  | case2 rest => exact (List.append_inj same long).1
  | case3 c rest plain ih =>
    rw [fill, fill] at same
    · exact ih refers (List.cons.inj same).2
    · exact plain
    · exact plain

theorem withNote_inj {id other : NoteId} {text : String} (refers : occurs text.toList = true)
    (same : withNote id text = withNote other text) : id = other := by
  have filled := congrArg String.toList same
  rw [withNote, withNote, String.toList_ofList, String.toList_ofList] at filled
  have digits := String.toList_injective (fill_inj refers filled)
  exact Int32.toInt_inj.1 (Int.repr_injective digits)

variable {binding other : Binding} {own carried : Option NoteId} {text filled : String}

/-- What a text with the placeholder is filled in with. -/
theorem exists_of_fillIn (refers : occurs text.toList = true)
    (done : fillIn binding own text = .ok filled) :
    ∃ id, binding.use own = some id ∧ filled = withNote id text := by
  cases stands : binding.use own with
  | none =>
    rw [fillIn, if_pos refers, stands] at done
    cases done
  | some id =>
    rw [fillIn_of_use stands] at done
    cases done
    exact ⟨id, rfl, rfl⟩

theorem use_eq_of_fillIn (refers : ¬ Free text) (done : fillIn binding own text = .ok filled)
    (again : fillIn other carried text = .ok filled) : binding.use own = other.use carried := by
  have occurs := not_free_iff.1 refers
  obtain ⟨id, stands, rfl⟩ := exists_of_fillIn occurs done
  obtain ⟨note, also, same⟩ := exists_of_fillIn occurs again
  rw [stands, also, withNote_inj occurs same]

end Placeholder

/-! ## Outcomes of different ids -/

variable {category : Category}

namespace Outcome

variable {front outcomes : List (Outcome category)} {outcome later : Outcome category}
  {object : StageObject category}

/-- The objects among outcomes all have different ids. -/
def Distinct (outcomes : List (Outcome category)) : Prop :=
  (objects outcomes).Pairwise fun a b => a.id ≠ b.id

theorem objects_cons (outcome : Outcome category) (rest : List (Outcome category)) :
    objects (outcome :: rest) = objects [outcome] ++ objects rest :=
  List.filterMap_append (l := [outcome])

theorem Distinct.first?_eq (distinct : Distinct outcomes) (member : object ∈ objects outcomes) :
    first? outcomes object.id = some object := by
  obtain ⟨before, behind, split⟩ := List.append_of_mem member
  refine List.find?_eq_some_iff_append.2 ⟨decide_eq_true rfl, before, behind, split, ?_⟩
  intro earlier inside
  rw [Distinct, split, List.pairwise_append] at distinct
  have differs := distinct.2.2 earlier inside object (List.mem_cons_self ..)
  simp [differs]

/-- An outcome in front that has another id does not matter. -/
theorem diagnostic?_concat
    (apart : ∀ object ∈ objects [outcome], ∀ other ∈ objects [later], object.id ≠ other.id) :
    diagnostic? (front ++ [outcome]) later = diagnostic? front later := by
  obtain ⟨index, result⟩ := later
  cases result with
  | error stop => cases stop <;> rfl
  | ok object =>
    have free : first? [outcome] object.id = none := by
      rw [first?, List.find?_eq_none]
      intro other inside
      simpa using apart other inside object (List.mem_singleton_self object)
    simp only [diagnostic?, first?_append, free, Option.or_none]

/-- Among outcomes of different ids, what is reported of each depends only on those in front of all
of them. -/
theorem Distinct.diagnosticsBehind_eq (distinct : Distinct outcomes) :
    diagnosticsBehind front outcomes = outcomes.filterMap (diagnostic? front) := by
  induction outcomes generalizing front with
  | nil => rfl
  | cons outcome rest ih =>
    rw [Distinct, objects_cons, List.pairwise_append] at distinct
    obtain ⟨_, others, across⟩ := distinct
    have same : rest.filterMap (diagnostic? (front ++ [outcome])) =
        rest.filterMap (diagnostic? front) := by
      refine List.filterMap_congr fun later member => ?_
      refine diagnostic?_concat fun object inside other among => across object inside other ?_
      obtain ⟨_, single, given⟩ := List.mem_filterMap.1 among
      cases List.mem_singleton.1 single
      exact List.mem_filterMap.2 ⟨later, member, given⟩
    rw [diagnosticsBehind_cons, ih others, same, List.filterMap_cons]
    cases diagnostic? front outcome <;> rfl

/-- An id is reported as taken only if an object in front has it. -/
theorem exists_earlier_of_diagnostic? {fault : Fault} {id : String}
    (own : FailsOnlyWith (Stop.OnlyFor Fault.Own) outcome.result)
    (given : diagnostic? front outcome = some fault)
    (taken : fault.cause = .redefinition id) : ∃ earlier ∈ objects front, earlier.id = id := by
  obtain ⟨index, result⟩ := outcome
  cases result with
  | error stop =>
    cases stop with
    | endless => cases given
    | failed first =>
      cases given
      have other : first.Own := own (.failed first) rfl
      exact absurd taken (other id)
  | ok object =>
    obtain ⟨earlier, found, same⟩ := Option.map_eq_some_iff.1 given
    cases same
    cases taken
    have named := List.find?_some found
    exact ⟨earlier, List.mem_of_find?_eq_some found, of_decide_eq_true named⟩

end Outcome

/-! ## Variants for different notes -/

variable {chart : Chart} {templates : Templates} {node variant : Node}

/-- A declaration that does not fan out over its times, but over different notes if at all, under an
id with the placeholder: the nearest level that gives an id, the declaration itself or a template of
it, gives a text that contains the placeholder. -/
structure Node.NamedByNote (chart : Chart) (templates : Templates) (node : Node) : Prop where
  single : ∀ field ∈ Fanout.timeFields, ∀ items,
    Keyed.get? node field = some (.arr items) → items = []
  distinct : ∀ ids, Fanout.noteIds? chart (Keyed.get? node "note") = .ok (some ids) → ids.Nodup
  named : ∀ fragments, templates.IsLineage node fragments → ∃ text,
    (node :: fragments).findSome? (Keyed.get? · "id") = some (.str text) ∧ ¬ Placeholder.Free text

namespace Prepared

theorem id_of_identify {merged : Node} {id targetId parentId : Option String} {text : String}
    (identified : identify merged = .ok (id, targetId, parentId))
    (given : Keyed.get? merged "id" = some (.str text)) : id = some text := by
  have read : textIn merged "id" = .ok (some text) := by
    rw [textIn, Node.given?, given]
  rw [identify, read, Result.ok_bind] at identified
  obtain ⟨_, _, identified⟩ := Result.bind_eq_ok_iff.1 identified
  obtain ⟨_, _, identified⟩ := Result.bind_eq_ok_iff.1 identified
  split at identified
  · cases identified
  · split at identified
    · cases identified
    · cases identified
      rfl

end Prepared

namespace Declarations

/-- The default time of a category is no other field. -/
theorem get?_withDefaultTime (node : Node) {key : String} (kept : key ≠ "time") :
    Keyed.get? (Prepared.withDefaultTime category node) key = Keyed.get? node key := by
  unfold Prepared.withDefaultTime
  split
  · rw [Keyed.get?_insert, if_neg kept.symm]
  · rfl

/-- A declaration with a note loads under the id that its nearest level gives, with its note for the
placeholder. -/
theorem id_of_object {id : NoteId} {counter : Nat} {made : StageObject category}
    (carries : Keyed.get? node "note" = some (.int id.toInt))
    (loaded : (object chart templates category node counter).1 = .ok made) :
    ∃ fragments, templates.IsLineage node fragments ∧ ∀ text,
      (node :: fragments).findSome? (Keyed.get? · "id") = some (.str text) →
      made.id = Placeholder.withNote id text := by
  obtain ⟨ready, prepared, done⟩ := exists_prepared_of_object loaded
  obtain ⟨merged, completed, identified, _⟩ := Prepared.exists_merged_of_ofNode prepared
  obtain ⟨_, _, own⟩ := Prepared.exists_of_ofNode completed prepared
  obtain ⟨fragments, lineage⟩ := Templates.exists_complete_iff.1 ⟨merged, completed⟩
  -- the default time hides neither the note nor the reference to a template nor the id
  have note : Keyed.get? merged "note" = some (.int id.toInt) := by
    apply templates.get?_of_given completed (by decide)
    rw [get?_withDefaultTime node (by decide), carries]
  have carried : ready.own = some id := by
    rw [own, ownNote, note, Option.bind_some, Json.int32?_toInt]
  rw [ready.finish_own carried] at done
  cases done
  refine ⟨fragments, ?_, fun text named => ?_⟩
  · rw [Templates.IsLineage, get?_withDefaultTime node (by decide)] at lineage
    exact lineage
  · have given : Keyed.get? merged "id" = some (.str text) := by
      rw [List.findSome?_cons] at named
      rw [Templates.get?_complete completed lineage (by decide), List.findSome?_cons,
        get?_withDefaultTime node (by decide)]
      exact named
    rw [Prepared.id_of_identify identified given]
    rfl

/-- A variant of such a declaration loads under an id that tells its note. -/
theorem exists_text_of_variant (noted : node.NamedByNote chart templates) {id : NoteId}
    {counter : Nat} {made : StageObject category}
    (loaded : (object chart templates category (Keyed.insert "note" (.int id.toInt) node)
      counter).1 = .ok made) :
    ∃ fragments text, templates.IsLineage node fragments ∧
      (node :: fragments).findSome? (Keyed.get? · "id") = some (.str text) ∧
      ¬ Placeholder.Free text ∧ made.id = Placeholder.withNote id text := by
  have other {key : String} (differs : "note" ≠ key) :
      Keyed.get? (Keyed.insert "note" (.int id.toInt) node) key = Keyed.get? node key := by
    rw [Keyed.get?_insert, if_neg differs]
  have carries : Keyed.get? (Keyed.insert "note" (.int id.toInt) node) "note" =
      some (.int id.toInt) := by
    rw [Keyed.get?_insert, if_pos rfl]
  obtain ⟨fragments, lineage, filled⟩ := id_of_object carries loaded
  rw [Templates.IsLineage, other (by decide)] at lineage
  obtain ⟨text, named, refers⟩ := noted.named fragments lineage
  refine ⟨fragments, text, lineage, named, refers, filled text ?_⟩
  rw [List.findSome?_cons] at named ⊢
  rw [other (by decide)]
  exact named

/-- Objects of variants are related if any two variants give related objects, whatever the values of
the counter are. -/
theorem pairwise_objects {related : StageObject category → StageObject category → Prop}
    {found : List Variant} (counter : Nat)
    (apart : found.Pairwise fun earlier later => ∀ m n object other,
      (earlier.outcome chart templates category m).result = .ok object →
      (later.outcome chart templates category n).result = .ok other → related object other) :
    (Outcome.objects (outcomesFrom chart templates category counter found)).Pairwise related := by
  rw [Outcome.objects, List.pairwise_filterMap]
  induction found generalizing counter with
  | nil => exact .nil
  | cons variant rest ih =>
    obtain ⟨first, others⟩ := List.pairwise_cons.1 apart
    rw [outcomesFrom_cons]
    refine List.pairwise_cons.2 ⟨?_, ih _ others⟩
    intro outcome member object given other found
    obtain ⟨⟨front, later⟩, inside, rfl⟩ := List.mem_map.1 member
    exact first later (mem_of_mem_withFront inside) _ _ object other
      (Result.eq_ok_of_toOption given) (Result.eq_ok_of_toOption found)

/-- The variants of such a declaration load under different ids. -/
theorem distinct_of_namedByNote (noted : node.NamedByNote chart templates) (index counter : Nat) :
    Outcome.Distinct (outcomesFrom chart templates category counter
      (variantsOf chart (.obj node, index))) := by
  apply pairwise_objects
  have single : Fanout.timeChanges node = [[]] := by
    rw [Fanout.timeChanges, Fanout.timeItems?_eq_none_iff.2 noted.single]
  simp only [variantsOf, fanOut_eq, single]
  cases found : Fanout.noteIds? chart (Keyed.get? node "note") with
  | error fault => exact List.pairwise_singleton ..
  | ok ids? =>
    cases ids? with
    | none => exact List.pairwise_singleton ..
    | some ids =>
      simp only [Except.map, Fanout.noteChanges, List.flatMap_singleton, List.map_map,
        List.pairwise_map]
      refine (noted.distinct ids found).imp fun {id other} differs m n made second loaded also => ?_
      intro same
      obtain ⟨_, text, lineage, named, refers, first⟩ := exists_text_of_variant noted loaded
      obtain ⟨_, again, another, alike, _, later⟩ := exists_text_of_variant noted also
      -- both ids are made of one text, so they would have the same note
      cases lineage.unique another
      cases named.symm.trans alike
      rw [first, later] at same
      exact differs (Placeholder.withNote_inj (Placeholder.not_free_iff.1 refers) same)

/-! ## Elements of an array -/

variable {root : Node} {counter reached after final : Nat} {front back : List Json} {item : Json}
  {found own : List (Outcome category)} {load : CategoryLoad category}

/-- The outcomes of an array are those in front of an element, those of the element, and those
behind it. -/
theorem exists_later
    (given : root.given? category.key = some (.arr (front ++ item :: back)))
    (before : outcomes chart templates category front counter = (found, reached))
    (here : ofElement chart templates category (item, front.length) reached = (own, after))
    (loads : ofCategory chart templates root category counter = (load, final)) :
    ∃ later : List (Outcome category), load = .ofOutcomes (found ++ (own ++ later)) ∧
      (∀ outcome ∈ found, outcome.index < front.length) ∧
      (∀ outcome ∈ own, FailsOnlyWith (Stop.OnlyFor Fault.Own) outcome.result) ∧
      ∀ outcome ∈ later, front.length < outcome.index := by
  rw [outcomes_eq] at before
  obtain ⟨rfl, rfl⟩ := Prod.mk.inj before
  rw [ofElement_eq] at here
  obtain ⟨rfl, rfl⟩ := Prod.mk.inj here
  have split : variants chart (front ++ item :: back) = variants chart front ++
      (variantsOf chart (item, front.length) ++ variantsBehind chart (front.length + 1) back) :=
    variants_append ..
  have whole := congrArg (outcomesFrom chart templates category counter) split
  rw [outcomesFrom_append, outcomesFrom_append] at whole
  simp only [ofCategory, given, outcomes_eq, whole] at loads
  refine ⟨_, (Prod.mk.inj loads).1.symm, fun outcome => index_of_mem_variants, ?_, ?_⟩
  · intro outcome member
    have among : outcome ∈ outcomesFrom chart templates category counter
        (variants chart (front ++ item :: back)) := by
      rw [whole]
      exact List.mem_append_right _ (List.mem_append_left _ member)
    exact result_fails_own among
  · intro outcome member
    obtain ⟨variant, inside, same⟩ := index_of_mem_outcomesFrom member
    rw [same]
    exact (index_of_mem_variantsBehind inside).1

/-- Among the outcomes of an element whose objects have different ids, an id is reported as taken
only if an object in front of the element has it, and the other objects come into the table. -/
theorem kept_of_distinct
    (given : root.given? category.key = some (.arr (front ++ item :: back)))
    (before : outcomes chart templates category front counter = (found, reached))
    (here : ofElement chart templates category (item, front.length) reached = (own, after))
    (loads : ofCategory chart templates root category counter = (load, final))
    (distinct : Outcome.Distinct own) :
    (∀ fault ∈ load.diagnostics, fault.IsAt category front.length →
      ∀ id, fault.cause = .redefinition id → ∃ earlier ∈ Outcome.objects found, earlier.id = id) ∧
    ∀ object ∈ Outcome.objects own, (∀ earlier ∈ Outcome.objects found, earlier.id ≠ object.id) →
      load.table.get? object.id = some object := by
  obtain ⟨later, rfl, inFront, fails, behind⟩ := exists_later given before here loads
  constructor
  · intro fault member placed id taken
    -- by its position, a diagnostic of the element is not one of those in front of it or behind it
    rw [CategoryLoad.diagnostics_ofOutcomes, Outcome.diagnostics, Outcome.diagnosticsBehind_append,
      Outcome.diagnosticsBehind_append, List.mem_append, List.mem_append, List.nil_append,
      distinct.diagnosticsBehind_eq] at member
    rcases member with among | among | among
    · obtain ⟨_, outcome, inside, same⟩ := Outcome.place_of_mem_diagnosticsBehind among
      have same := Option.some.inj (same.symm.trans placed.2)
      exact absurd same (Nat.ne_of_lt (inFront outcome inside))
    · obtain ⟨outcome, inside, reported⟩ := List.mem_filterMap.1 among
      exact Outcome.exists_earlier_of_diagnostic? (fails outcome inside) reported taken
    · obtain ⟨_, outcome, inside, same⟩ := Outcome.place_of_mem_diagnosticsBehind among
      have same := Option.some.inj (same.symm.trans placed.2)
      exact absurd same (Nat.ne_of_gt (behind outcome inside))
  · intro object member free
    have unused : Outcome.first? found object.id = none := by
      rw [Outcome.first?, List.find?_eq_none]
      intro earlier among
      simpa using free earlier among
    rw [CategoryLoad.get?_table_ofOutcomes, Outcome.first?_append, Outcome.first?_append, unused,
      distinct.first?_eq member]
    rfl

open Placeholder in
/-- **Ids with the note of a variant.** With something for the placeholder, every text is filled
in. No placeholder is left in a filled text, so filling it in again changes nothing, and two ways
of filling in one text with the placeholder agree only if they give the same note. So in a category
array the objects of a declaration whose id has the placeholder, that fans out over different notes
and not over its times, have different ids: an id is reported as taken at the declaration only if
an object in front of it has it, and every object whose id is free there is in the table. -/
theorem ofCategory_noted :
    (∀ (binding : Binding) (own : Option NoteId) (id : NoteId) (text : String),
      binding.use own = some id → ∃ filled, fillIn binding own text = .ok filled) ∧
    (∀ (binding : Binding) (own : Option NoteId) (text filled : String),
      fillIn binding own text = .ok filled →
        Free filled ∧ ∀ other carried, fillIn other carried filled = .ok filled) ∧
    (∀ (binding other : Binding) (own carried : Option NoteId) (text filled : String),
      ¬ Free text → fillIn binding own text = .ok filled →
        fillIn other carried text = .ok filled → binding.use own = other.use carried) ∧
    ∀ (chart : Chart) (templates : Templates) (category : Category) (root node : Node)
      (front back : List Json) (counter reached after final : Nat)
      (found own : List (Outcome category)) (load : CategoryLoad category),
      root.given? category.key = some (.arr (front ++ .obj node :: back)) →
      outcomes chart templates category front counter = (found, reached) →
      ofElement chart templates category (.obj node, front.length) reached = (own, after) →
      ofCategory chart templates root category counter = (load, final) →
      node.NamedByNote chart templates →
        (Outcome.objects own).Pairwise (fun a b => a.id ≠ b.id) ∧
        (∀ fault ∈ load.diagnostics, fault.IsAt category front.length →
          ∀ id, fault.cause = .redefinition id →
            ∃ earlier ∈ Outcome.objects found, earlier.id = id) ∧
        ∀ object ∈ Outcome.objects own,
          (∀ earlier ∈ Outcome.objects found, earlier.id ≠ object.id) →
            load.table.get? object.id = some object := by
  refine ⟨?_, ?_, ?_, ?_⟩
  · exact fun binding own id text stands => ⟨_, fillIn_of_use stands text⟩
  · intro binding own text filled done
    have free := free_of_fillIn done
    exact ⟨free, fillIn_of_free free⟩
  · exact fun binding other own carried text filled => use_eq_of_fillIn
  · intro chart templates category root node front back counter reached after final found own load
      given before here loads noted
    have distinct : Outcome.Distinct own := by
      have same := ofElement_eq (.obj node, front.length) reached ▸ here
      rw [← (Prod.mk.inj same).1]
      exact distinct_of_namedByNote noted ..
    exact ⟨distinct, kept_of_distinct given before here loads distinct⟩

/-! A template gives the note twice as the id, for a note and for another one whose id is the digit
of the first one twice; the first of the two ids is taken by a text in front. -/

def doubled : Templates := ⟨[("doubled", [("id", .str "$note$note")])]⟩

def doubledText : Node := [("note", .arr [.int 1, .int 11]), ("template", .str "doubled")]

def doubledRoot : Node :=
  [("texts", .arr ([.obj [("id", .str "11")]] ++ .obj doubledText :: []))]

theorem namedByNote_doubled : doubledText.NamedByNote Chart.empty doubled where
  single field member items given := by
    have absent : ∀ field ∈ Fanout.timeFields, Keyed.get? doubledText field = none := by decide
    rw [absent field member] at given
    cases given
  distinct ids read := by
    cases read
    decide
  named fragments lineage := by
    have only : Templates.IsLineage doubled doubledText [[("id", .str "$note$note")]] :=
      ⟨[("doubled", _)], none, .visit rfl (.here none), .inl rfl, rfl⟩
    cases lineage.unique only
    exact ⟨"$note$note", rfl, Placeholder.not_free_iff.2 (by decide)⟩

theorem ofCategory_noted_doubled :
    (∃ filled, Placeholder.fillIn none (some 11) "$no$note" = .ok filled ∧
      Placeholder.Free filled ∧ Placeholder.fillIn none (some 1) "$no$note" ≠ .ok filled) ∧
    doubledText.NamedByNote Chart.empty doubled ∧
    ∃ found own : List (Outcome .text), ∃ load : CategoryLoad .text,
      (ofCategory Chart.empty doubled doubledRoot .text 0).1 = load ∧
      (Outcome.objects found).map StageObject.id = ["11"] ∧
      (Outcome.objects own).map StageObject.id = ["11", "1111"] ∧
      (∀ fault ∈ load.diagnostics, fault.IsAt .text 1 →
        ∀ id, fault.cause = .redefinition id → id = "11") ∧
      ∃ object ∈ Outcome.objects own, load.table.get? "1111" = some object := by
  have given : doubledRoot.given? Category.text.key =
      some (.arr ([.obj [("id", .str "11")]] ++ .obj doubledText :: [])) := rfl
  obtain ⟨total, closed, tells, named⟩ := ofCategory_noted
  obtain ⟨_, reported, kept⟩ := named Chart.empty doubled .text doubledRoot _ _ _ 0
    _ _ _ _ _ _ given rfl rfl rfl namedByNote_doubled
  have before : (Outcome.objects (outcomes Chart.empty doubled .text
      [.obj [("id", .str "11")]] 0).1).map StageObject.id = ["11"] := by decide +kernel
  have ids : (Outcome.objects (ofElement Chart.empty doubled .text (.obj doubledText, 1) 0).1).map
      StageObject.id = ["11", "1111"] := by decide +kernel
  have inFront {earlier : StageObject .text} (member : earlier ∈ Outcome.objects
      (outcomes Chart.empty doubled .text [.obj [("id", .str "11")]] 0).1) : earlier.id = "11" :=
    List.mem_singleton.1 (before ▸ List.mem_map_of_mem member)
  refine ⟨?_, namedByNote_doubled, _, _, _, rfl, before, ids, ?_, ?_⟩
  · obtain ⟨filled, done⟩ := total none (some 11) 11 "$no$note" rfl
    have refers : ¬ Placeholder.Free "$no$note" := Placeholder.not_free_iff.2 (by decide)
    refine ⟨filled, done, (closed _ _ _ _ done).1, fun again => ?_⟩
    cases tells _ _ _ _ _ _ refers done again
  · intro fault member placed id taken
    obtain ⟨earlier, among, same⟩ := reported fault member placed id taken
    rw [← same, inFront among]
  · obtain ⟨object, among, named⟩ : ∃ object ∈ Outcome.objects
        (ofElement Chart.empty doubled .text (.obj doubledText, 1) 0).1, object.id = "1111" :=
      List.mem_map.1 (ids ▸ by decide)
    refine ⟨object, among, named ▸ kept object among fun earlier member => ?_⟩
    rw [inFront member, named]
    decide

end Declarations
end Storyboard
