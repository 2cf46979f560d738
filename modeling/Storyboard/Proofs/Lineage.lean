import Mathlib.Data.List.Perm.Subperm
import Storyboard.Proofs.Variants

/-!
# Where references to templates lead

A declaration refers to a template, the fragment of that template may refer to a further one, and
so on. The way along these references is a relation between a reference, the fragments visited one
after the other, and the reference that is come to. A way that visits no template twice is no
longer than there are templates, so following the references always comes to an end: at a fragment
without a reference, or at the first reference that is wrong. What a declaration becomes is read off
its way: each field is that of the nearest level that has it.
-/
namespace Storyboard.Templates

variable {templates : Templates}

/-! ## Ways along references -/

/-- From a reference, the templates that the references name are visited in turn, the nearest first,
each with its name and its fragment. The way goes up to some reference, which need not be the last
one. -/
inductive Way (templates : Templates) :
    Option Json → List (String × Node) → Option Json → Prop
  | here (reference : Option Json) : Way templates reference [] reference
  | visit {id : String} {fragment : Node} {way : List (String × Node)} {last : Option Json}
      (found : templates.get? id = some fragment)
      (further : Way templates (Keyed.get? fragment "template") way last) :
      Way templates (some (.str id)) ((id, fragment) :: way) last

/-- A way ends well where there is no reference, or a null in its place. -/
def Ends (reference : Option Json) : Prop := reference = none ∨ reference = some .null

/-- What is wrong with a reference that is come to after some templates have been visited. -/
inductive Offends (templates : Templates) (visited : List String) : Json → Fault → Prop
  | notText {value : Json} (notNull : value ≠ .null) (notText : ∀ id, value ≠ .str id) :
      Offends templates visited value ((Fault.of (.notString "template")).within value.compact)
  | unknown {id : String} (missing : templates.get? id = none) :
      Offends templates visited (.str id) (.of (.unknownTemplate id))
  | again {id : String} (seen : id ∈ visited) :
      Offends templates visited (.str id) (.of (.templateCycle id))

/-- The fragments that a declaration is laid over, the nearest first: those on the way from its own
reference to a good end. -/
def IsLineage (templates : Templates) (node : Node) (fragments : List Node) : Prop :=
  ∃ way last, Way templates (Keyed.get? node "template") way last ∧ Ends last ∧
    fragments = way.map Prod.snd

/-- The first reference of a declaration that is wrong, and what is wrong with it: the ones in front
of it name templates, and each of them another one. -/
def HasOffence (templates : Templates) (node : Node) (fault : Fault) : Prop :=
  ∃ way value, Way templates (Keyed.get? node "template") way (some value) ∧
    (way.map Prod.fst).Nodup ∧ Offends templates (way.map Prod.fst) value fault

namespace Way

variable {reference last : Option Json} {way front back : List (String × Node)}
  {id : String} {fragment : Node}

theorem get?_of_mem (leads : Way templates reference way last) {entry : String × Node}
    (member : entry ∈ way) : templates.get? entry.1 = some entry.2 := by
  induction leads with
  | here => cases member
  | visit found _ ih =>
    rcases List.mem_cons.1 member with rfl | later
    · exact found
    · exact ih later

/-- A way is cut at a template that it visits: up to the reference that names it, and from the
reference of its fragment on. -/
theorem cut (leads : Way templates reference (front ++ (id, fragment) :: back) last) :
    Way templates reference front (some (.str id)) ∧
      Way templates (Keyed.get? fragment "template") back last := by
  induction front generalizing reference with
  | nil =>
    cases leads with
    | visit found further => exact ⟨.here _, further⟩
  | cons entry front ih =>
    cases leads with
    | visit found further =>
      obtain ⟨before, behind⟩ := ih further
      exact ⟨.visit found before, behind⟩

theorem names_subset (leads : Way templates reference way last) :
    way.map Prod.fst ⊆ templates.fragments.map Prod.fst := by
  intro name member
  obtain ⟨entry, inside, rfl⟩ := List.mem_map.1 member
  exact List.mem_map_of_mem (Keyed.mem_of_get? (leads.get?_of_mem inside))

/-- A way that visits no template twice is no longer than there are templates. -/
theorem length_le_size (leads : Way templates reference way last)
    (distinct : (way.map Prod.fst).Nodup) : way.length ≤ templates.size := by
  have fits := (List.subperm_of_subset distinct leads.names_subset).length_le
  rw [List.length_map, List.length_map] at fits
  exact fits

/-- A way goes one template further where its last reference names one. -/
theorem concat (leads : Way templates reference way (some (.str id)))
    (found : templates.get? id = some fragment) :
    Way templates reference (way ++ [(id, fragment)]) (Keyed.get? fragment "template") := by
  generalize named : some (Json.str id) = last at leads
  induction leads with
  | here reference =>
    subst named
    exact .visit found (.here _)
  | visit known _ ih => exact .visit known (ih named)

/-- Of two ways from one reference, the longer one goes on where the shorter one stops. -/
theorem exists_append_of_length_le {longer : List (String × Node)} {final : Option Json}
    (leads : Way templates reference way last) (goesOn : Way templates reference longer final)
    (le : way.length ≤ longer.length) :
    ∃ more, longer = way ++ more ∧ Way templates last more final := by
  induction leads generalizing longer with
  | here reference => exact ⟨longer, rfl, goesOn⟩
  | @visit id fragment way last found _ ih =>
    cases goesOn with
    | here => simp at le
    | @visit _ twin further _ known onward =>
      have same : twin = fragment := Option.some.inj (known.symm.trans found)
      subst same
      obtain ⟨more, rfl, rest⟩ := ih onward (by simpa using le)
      exact ⟨more, rfl, rest⟩

theorem eq_nil_of_ends (leads : Way templates reference way last) (ends : Ends reference) :
    way = [] := by
  cases leads with
  | here => rfl
  | visit => rcases ends with absent | absent <;> cases absent

/-- Two ways from one reference that both end well are the same. -/
theorem eq_of_ends {other : List (String × Node)} {final : Option Json}
    (leads : Way templates reference way last) (ends : Ends last)
    (again : Way templates reference other final) (stops : Ends final) : way = other := by
  rcases Nat.le_total way.length other.length with le | le
  · obtain ⟨more, rfl, rest⟩ := leads.exists_append_of_length_le again le
    rw [rest.eq_nil_of_ends ends, List.append_nil]
  · obtain ⟨more, rfl, rest⟩ := again.exists_append_of_length_le leads le
    rw [rest.eq_nil_of_ends stops, List.append_nil]

/-- A way that ends well visits no template twice: from there it would go around for ever. -/
theorem nodup_of_ends (leads : Way templates reference way last) (ends : Ends last) :
    (way.map Prod.fst).Nodup := by
  induction leads with
  | here => exact List.nodup_nil
  | @visit id fragment way last found further ih =>
    rw [List.map_cons, List.nodup_cons]
    refine ⟨?_, ih ends⟩
    intro again
    obtain ⟨⟨_, twin⟩, member, rfl⟩ := List.mem_map.1 again
    have same : twin = fragment :=
      Option.some.inj ((further.get?_of_mem member).symm.trans found)
    subst same
    obtain ⟨front, back, rfl⟩ := List.append_of_mem member
    -- behind the second visit the same way is left as behind the first, and it is shorter
    have shorter := congrArg List.length (further.eq_of_ends ends further.cut.2 ends)
    simp only [List.length_append, List.length_cons] at shorter
    omega

end Way

/-- From every reference there is a way, with no template visited twice, to a good end or to a
reference that is wrong. -/
theorem exists_way (templates : Templates) (reference : Option Json) :
    ∃ way last, Way templates reference way last ∧ (way.map Prod.fst).Nodup ∧
      (Ends last ∨ ∃ value fault, last = some value ∧
        Offends templates (way.map Prod.fst) value fault) := by
  -- any way so far can be gone on, and at most as many templates are left as it has not visited
  have onward (left : Nat) : ∀ way last, Way templates reference way last →
      (way.map Prod.fst).Nodup → templates.size - way.length = left →
      ∃ way last, Way templates reference way last ∧ (way.map Prod.fst).Nodup ∧
        (Ends last ∨ ∃ value fault, last = some value ∧
          Offends templates (way.map Prod.fst) value fault) := by
    induction left using Nat.strongRecOn with
    | ind left ih =>
      intro way last leads distinct unvisited
      cases last with
      | none => exact ⟨way, none, leads, distinct, .inl (.inl rfl)⟩
      | some value =>
        cases value with
        | null => exact ⟨way, some .null, leads, distinct, .inl (.inr rfl)⟩
        | str id =>
          by_cases seen : id ∈ way.map Prod.fst
          · exact ⟨way, _, leads, distinct, .inr ⟨_, _, rfl, .again seen⟩⟩
          · cases found : templates.get? id with
            | none => exact ⟨way, _, leads, distinct, .inr ⟨_, _, rfl, .unknown found⟩⟩
            | some fragment =>
              have longer := leads.concat found
              have fresh : ((way ++ [(id, fragment)]).map Prod.fst).Nodup := by
                rw [List.map_append]
                exact (List.perm_append_singleton id _).nodup_iff.2
                  (List.nodup_cons.2 ⟨seen, distinct⟩)
              have fits := longer.length_le_size fresh
              rw [List.length_append, List.length_singleton] at fits
              refine ih _ ?_ _ _ longer fresh rfl
              rw [List.length_append, List.length_singleton]
              omega
        | bool | int | real | arr | obj =>
          exact ⟨way, _, leads, distinct, .inr ⟨_, _, rfl, .notText nofun nofun⟩⟩
  exact onward _ [] reference (.here reference) List.nodup_nil rfl

/-! ## Following references -/

section

variable {reference last : Option Json} {way : List (String × Node)}

/-- Following references goes along a way that visits no template twice and none that was seen
before. -/
theorem follow_eq (leads : Way templates reference way last)
    (distinct : (way.map Prod.fst).Nodup) {seen : List String}
    (fresh : ∀ id ∈ way.map Prod.fst, id ∉ seen) (room : Nat) :
    templates.follow (way.length + room) seen reference =
      (templates.follow room ((way.map Prod.fst).reverse ++ seen) last).map
        (way.map Prod.snd ++ ·) := by
  induction leads generalizing seen with
  | here reference =>
    simp only [List.length_nil, Nat.zero_add, List.map_nil, List.reverse_nil, List.nil_append]
    cases templates.follow room seen reference <;> rfl
  | @visit id fragment way last found further ih =>
    rw [List.map_cons, List.nodup_cons] at distinct
    have unseen : seen.contains id = false := by simpa using fresh id (by simp)
    have onward : ∀ other ∈ way.map Prod.fst, other ∉ id :: seen := by
      intro other member again
      rcases List.mem_cons.1 again with rfl | earlier
      · exact distinct.1 member
      · exact fresh other (List.mem_cons_of_mem _ member) earlier
    have step : way.length + 1 + room = way.length + room + 1 := by omega
    rw [List.length_cons, step, follow, unseen, found]
    simp only [Bool.false_eq_true, if_false, ih distinct.2 onward, List.map_cons,
      List.reverse_cons, List.append_assoc, List.singleton_append]
    cases templates.follow room ((way.map Prod.fst).reverse ++ id :: seen) last <;> rfl

theorem follow_of_ends (ends : Ends last) (room : Nat) (seen : List String) :
    templates.follow room seen last = .ok [] := by
  rcases ends with rfl | rfl <;> rw [follow]

theorem follow_of_offends {visited seen : List String} {value : Json} {fault : Fault}
    (offends : Offends templates visited value fault)
    (known : ∀ id ∈ seen, templates.get? id ≠ none) (all : ∀ id ∈ visited, id ∈ seen)
    (room : Nat) : templates.follow room seen (some value) = .error fault := by
  cases offends with
  | notText notNull notText =>
    cases value with
    | null => exact absurd rfl notNull
    | str id => exact absurd rfl (notText id)
    | _ => rw [follow] <;> nofun
  | @unknown id missing =>
    have unseen : seen.contains id = false := by
      simpa using fun member => known id member missing
    rw [follow, unseen, missing]
    rfl
  | @again id visited =>
    have seen : seen.contains id = true := by simpa using all id visited
    rw [follow, seen]
    rfl

end

/-- Following a reference goes along its way to the end and gives the fragments, or the fault
there. -/
theorem lineage_eq {reference : Json} {way : List (String × Node)} {last : Option Json}
    (leads : Way templates (some reference) way last) (distinct : (way.map Prod.fst).Nodup) :
    (Ends last → templates.lineage reference = .ok (way.map Prod.snd)) ∧
    ∀ value fault, last = some value → Offends templates (way.map Prod.fst) value fault →
      templates.lineage reference = .error fault := by
  obtain ⟨room, size⟩ := Nat.exists_eq_add_of_le (leads.length_le_size distinct)
  have along := follow_eq leads distinct (fun _ _ => List.not_mem_nil) room
  rw [← size] at along
  constructor
  · intro ends
    rw [lineage, along, follow_of_ends ends]
    exact congrArg Except.ok (List.append_nil _)
  · rintro value fault rfl offends
    rw [lineage, along, follow_of_offends offends]
    · rfl
    · intro id member
      rw [List.append_nil, List.mem_reverse] at member
      obtain ⟨entry, inside, rfl⟩ := List.mem_map.1 member
      rw [leads.get?_of_mem inside]
      exact Option.some_ne_none _
    · intro id member
      rw [List.append_nil, List.mem_reverse]
      exact member

/-! ## Laying over templates -/

section

variable {node merged : Node} {fragments : List Node} {fault : Fault}

theorem complete_of_bare (bare : Keyed.get? node "template" = none) :
    templates.complete node = .ok node := by
  rw [complete, bare]

theorem complete_of_lineage (lineage : IsLineage templates node fragments) {reference : Json}
    (given : Keyed.get? node "template" = some reference) :
    templates.complete node =
      .ok (Keyed.overlay (layered fragments) (Keyed.erase "template" node)) := by
  obtain ⟨way, last, leads, ends, rfl⟩ := lineage
  have distinct := leads.nodup_of_ends ends
  rw [given] at leads
  simp only [complete, given, (lineage_eq leads distinct).1 ends]
  rfl

theorem complete_of_offence (offence : HasOffence templates node fault) :
    templates.complete node = .error fault := by
  obtain ⟨way, value, leads, distinct, offends⟩ := offence
  cases given : Keyed.get? node "template" with
  | none =>
    rw [given] at leads
    cases leads
  | some reference =>
    rw [given] at leads
    simp only [complete, given, (lineage_eq leads distinct).2 value fault rfl offends]
    rfl

/-- Every declaration has a lineage, or else a reference that is wrong. -/
theorem lineage_or_offence (templates : Templates) (node : Node) :
    (∃ fragments, IsLineage templates node fragments) ∨
      ∃ fault, HasOffence templates node fault := by
  obtain ⟨way, last, leads, distinct, ends | ⟨value, fault, rfl, offends⟩⟩ :=
    exists_way templates (Keyed.get? node "template")
  · exact .inl ⟨_, way, last, leads, ends, rfl⟩
  · exact .inr ⟨fault, way, value, leads, distinct, offends⟩

theorem IsLineage.of_bare (bare : Keyed.get? node "template" = none) :
    IsLineage templates node [] :=
  ⟨[], none, bare ▸ .here _, .inl rfl, rfl⟩

theorem complete_eq_error_iff :
    templates.complete node = .error fault ↔ HasOffence templates node fault := by
  constructor
  · intro failed
    rcases lineage_or_offence templates node with ⟨fragments, lineage⟩ | ⟨other, offence⟩
    · cases given : Keyed.get? node "template" with
      | none => cases (complete_of_bare given).symm.trans failed
      | some reference => cases (complete_of_lineage lineage given).symm.trans failed
    · cases (complete_of_offence offence).symm.trans failed
      exact offence
  · exact complete_of_offence

theorem exists_complete_iff :
    (∃ merged, templates.complete node = .ok merged) ↔
      ∃ fragments, IsLineage templates node fragments := by
  constructor
  · rintro ⟨merged, done⟩
    refine (lineage_or_offence templates node).resolve_right ?_
    rintro ⟨fault, offence⟩
    cases (complete_of_offence offence).symm.trans done
  · rintro ⟨fragments, lineage⟩
    cases given : Keyed.get? node "template" with
    | none => exact ⟨node, complete_of_bare given⟩
    | some reference => exact ⟨_, complete_of_lineage lineage given⟩

/-- A declaration has one lineage only. -/
theorem IsLineage.unique {others : List Node} (lineage : IsLineage templates node fragments)
    (other : IsLineage templates node others) : fragments = others := by
  obtain ⟨way, last, leads, ends, rfl⟩ := lineage
  obtain ⟨_, _, again, stops, rfl⟩ := other
  rw [leads.eq_of_ends ends again stops]

/-- The nearest fragment that has a field gives it. -/
theorem get?_layered_eq (fragments : List Node) {key : String} (kept : key ≠ "template") :
    Keyed.get? (layered fragments) key = fragments.findSome? (Keyed.get? · key) := by
  induction fragments with
  | nil => rfl
  | cons fragment rest ih =>
    rw [get?_layered_cons fragment rest kept, ih, List.findSome?_cons]
    cases Keyed.get? fragment key <;> rfl

theorem template_layered (fragments : List Node) :
    Keyed.get? (layered fragments) "template" = none := by
  induction fragments with
  | nil => rfl
  | cons fragment rest ih =>
    rw [layered, List.foldr_cons, Keyed.get?_overlay, Keyed.get?_erase, if_pos rfl,
      Option.none_or]
    exact ih

/-- What is laid over its templates refers to no template. -/
theorem template_of_complete (done : templates.complete node = .ok merged) :
    Keyed.get? merged "template" = none := by
  obtain ⟨fragments, lineage⟩ := exists_complete_iff.1 ⟨merged, done⟩
  cases given : Keyed.get? node "template" with
  | none =>
    cases (complete_of_bare given).symm.trans done
    exact given
  | some reference =>
    cases (complete_of_lineage lineage given).symm.trans done
    rw [Keyed.get?_overlay, Keyed.get?_erase, if_pos rfl, Option.none_or,
      template_layered fragments]

/-- The nearest level that has a field gives it: the declaration itself, or the first fragment that
has it. -/
theorem get?_complete (done : templates.complete node = .ok merged)
    (lineage : IsLineage templates node fragments) {key : String} (kept : key ≠ "template") :
    Keyed.get? merged key = (node :: fragments).findSome? (Keyed.get? · key) := by
  rw [List.findSome?_cons]
  cases given : Keyed.get? node "template" with
  | none =>
    cases (complete_of_bare given).symm.trans done
    cases lineage.unique (.of_bare given)
    cases Keyed.get? node key <;> rfl
  | some reference =>
    cases (complete_of_lineage lineage given).symm.trans done
    rw [Keyed.get?_overlay, Keyed.get?_erase, if_neg kept.symm, get?_layered_eq fragments kept]
    cases Keyed.get? node key <;> rfl

end

/-! ## Derived templates -/

/-- The declaration that does nothing but refer to a template. -/
def referring (reference : Json) : Node := [("template", reference)]

theorem overlay_referring (below : Node) (reference : Json) :
    Keyed.overlay below (Keyed.erase "template" (referring reference)) = below := by
  simp [referring, Keyed.erase, Keyed.overlay]

section

variable {node fragment : Node} {id : String} {base : Json}

/-- A way that comes back to where it started can only be found to go around. -/
theorem Offends.code_of_around {reference : Option Json} {front back : List (String × Node)}
    {id : String} {value : Json} {fault : Fault}
    (leads : Way templates reference (front ++ (id, fragment) :: back) (some value))
    (around : Keyed.get? fragment "template" = reference)
    (offends : Offends templates ((front ++ (id, fragment) :: back).map Prod.fst) value fault) :
    fault.cause.code = "E3004" := by
  -- the way behind the template starts again from the same reference, so the whole way goes on
  -- where it stops: the reference at the end names a template of the way
  have behind := leads.cut.2
  rw [around] at behind
  obtain ⟨more, same, onward⟩ := behind.exists_append_of_length_le leads (by simp; omega)
  cases onward with
  | here =>
    have lengths := congrArg List.length same
    simp only [List.length_append, List.length_cons, List.length_nil] at lengths
    omega
  | visit found _ =>
    cases offends with
    | notText _ notText => exact absurd rfl (notText _)
    | unknown missing => cases missing.symm.trans found
    | again => rfl

/-- Where the base of a derived template is wrong, a declaration that refers to the template is
wrong in the same way. -/
theorem HasOffence.of_base {fault : Fault}
    (given : Keyed.get? node "template" = some (.str id))
    (found : templates.get? id = some fragment)
    (derived : Keyed.get? fragment "template" = some base)
    (offence : HasOffence templates (referring base) fault) :
    ∃ twin, HasOffence templates node twin ∧ fault.cause.code = twin.cause.code := by
  obtain ⟨way, value, leads, distinct, offends⟩ := offence
  have fromBase : Way templates (Keyed.get? fragment "template") way (some value) := by
    rw [derived]
    exact leads
  by_cases back : id ∈ way.map Prod.fst
  · -- the circle is closed at the template itself; seen from its base, it is closed one step later
    obtain ⟨⟨name, twin⟩, member, rfl⟩ := List.mem_map.1 back
    have same : twin = fragment := Option.some.inj ((leads.get?_of_mem member).symm.trans found)
    subst same
    obtain ⟨front, rest, rfl⟩ := List.append_of_mem member
    rw [List.map_append, List.map_cons, List.nodup_append] at distinct
    obtain ⟨apart, _, fresh⟩ := distinct
    refine ⟨_, ⟨(name, twin) :: front, .str name, ?_, ?_, .again (List.mem_cons_self ..)⟩, ?_⟩
    · rw [given]
      exact .visit found fromBase.cut.1
    · rw [List.map_cons, List.nodup_cons]
      refine ⟨?_, apart⟩
      intro inside
      exact fresh _ inside _ (List.mem_cons_self ..) rfl
    · exact offends.code_of_around fromBase rfl
  · refine ⟨fault, ⟨(id, fragment) :: way, value, ?_, List.nodup_cons.2 ⟨back, distinct⟩, ?_⟩,
      rfl⟩
    · rw [given]
      exact .visit found fromBase
    · cases offends with
      | notText notNull notText => exact .notText notNull notText
      | unknown missing => exact .unknown missing
      | again seen => exact .again (List.mem_cons_of_mem _ seen)

/-- A declaration that refers to a derived template is laid over the fragment of the template, and
that over what the base of the template comes to. -/
theorem complete_derived (given : Keyed.get? node "template" = some (.str id))
    (found : templates.get? id = some fragment)
    (derived : Keyed.get? fragment "template" = some base) :
    (∃ below, templates.complete (referring base) = .ok below ∧
      templates.complete node = .ok (Keyed.overlay
        (Keyed.overlay below (Keyed.erase "template" fragment)) (Keyed.erase "template" node))) ∨
    ∃ fault twin, templates.complete (referring base) = .error fault ∧
      templates.complete node = .error twin ∧ fault.cause.code = twin.cause.code := by
  rcases lineage_or_offence templates (referring base) with ⟨fragments, lineage⟩ | ⟨fault, offence⟩
  · left
    refine ⟨layered fragments, ?_, ?_⟩
    · rw [complete_of_lineage lineage rfl, overlay_referring]
    · obtain ⟨way, last, leads, ends, rfl⟩ := lineage
      have onward : IsLineage templates node (fragment :: way.map Prod.snd) := by
        refine ⟨(id, fragment) :: way, last, ?_, ends, rfl⟩
        rw [given]
        exact .visit found (derived ▸ leads)
      exact complete_of_lineage onward given
  · right
    obtain ⟨twin, wrong, code⟩ := offence.of_base given found derived
    exact ⟨fault, twin, complete_of_offence offence, complete_of_offence wrong, code⟩

end

/-! ## The outcome -/

/-- **Template chains.** A declaration without a reference to a template stays as it is. Otherwise
its references are followed from fragment to fragment, and this always comes to an end, also where
templates refer to each other in a circle: no more fragments are visited than there are. It fails
exactly if a reference on the way is wrong, with the fault of the first one that is: neither a null
nor a text, or the name of no template, or that of a template that has been visited. Otherwise there
is a lineage of fragments. The result then has no reference to a template, and every other field is
that of the nearest level that has it, nulls and nested declarations like any other value, so no
other fields appear. Laying the result over its templates again changes nothing, and a derived
template acts as its fragment laid over its base. -/
theorem complete_resolves (templates : Templates) (node : Node) :
    (Keyed.get? node "template" = none → templates.complete node = .ok node) ∧
    (∀ way last, Way templates (Keyed.get? node "template") way last →
      (way.map Prod.fst).Nodup → way.length ≤ templates.size) ∧
    (∀ fault, templates.complete node = .error fault ↔ HasOffence templates node fault) ∧
    ((∃ merged, templates.complete node = .ok merged) ↔
      ∃ fragments, IsLineage templates node fragments) ∧
    (∀ merged fragments, templates.complete node = .ok merged →
      IsLineage templates node fragments →
      Keyed.get? merged "template" = none ∧
      ∀ key, key ≠ "template" →
        Keyed.get? merged key = (node :: fragments).findSome? (Keyed.get? · key)) ∧
    (templates.complete node >>= templates.complete) = templates.complete node ∧
    ∀ id fragment base, Keyed.get? node "template" = some (.str id) →
      templates.get? id = some fragment → Keyed.get? fragment "template" = some base →
      (∃ below, templates.complete (referring base) = .ok below ∧
        templates.complete node = .ok (Keyed.overlay
          (Keyed.overlay below (Keyed.erase "template" fragment))
          (Keyed.erase "template" node))) ∨
      ∃ fault twin, templates.complete (referring base) = .error fault ∧
        templates.complete node = .error twin ∧ fault.cause.code = twin.cause.code := by
  refine ⟨complete_of_bare, fun _ _ leads distinct => leads.length_le_size distinct,
    fun _ => complete_eq_error_iff, exists_complete_iff, ?_, ?_, ?_⟩
  · intro merged fragments done lineage
    exact ⟨template_of_complete done, fun key kept => get?_complete done lineage kept⟩
  · cases done : templates.complete node with
    | error fault => rfl
    | ok merged =>
      rw [Result.ok_bind]
      exact complete_of_bare (template_of_complete done)
  · intro id fragment base given found derived
    exact complete_derived given found derived

/-! A declaration over a template that is derived from another one, and one that refers into a
circle. -/

def leftFragment : Node := [("template", .str "base"), ("x", .int (-1)), ("y", .null)]

def baseFragment : Node :=
  [("color", .str "white"), ("states", .arr [.obj []]), ("x", .int 0), ("y", .int 0)]

def stacked : Templates where
  fragments :=
    [("base", baseFragment), ("left", leftFragment), ("ring", referring (.str "round")),
     ("round", referring (.str "ring"))]

theorem complete_resolves_stacked :
    (∃ merged, stacked.complete [("template", .str "left"), ("z", .int 2)] = .ok merged ∧
      Keyed.get? merged "template" = none ∧ Keyed.get? merged "x" = some (.int (-1)) ∧
      Keyed.get? merged "y" = some .null ∧ Keyed.get? merged "states" = some (.arr [.obj []]) ∧
      Keyed.get? merged "z" = some (.int 2)) ∧
    stacked.complete (referring (.str "ring")) = .error (.of (.templateCycle "ring")) := by
  constructor
  · obtain ⟨_, _, _, lineageIff, levels, _⟩ :=
      complete_resolves stacked [("template", .str "left"), ("z", .int 2)]
    have lineage : IsLineage stacked [("template", .str "left"), ("z", .int 2)]
        [leftFragment, baseFragment] :=
      ⟨[("left", leftFragment), ("base", baseFragment)], none,
        .visit rfl (.visit rfl (.here none)), .inl rfl, rfl⟩
    obtain ⟨merged, done⟩ := lineageIff.2 ⟨_, lineage⟩
    obtain ⟨bare, fields⟩ := levels merged _ done lineage
    refine ⟨merged, done, bare, ?_, ?_, ?_, ?_⟩
    · exact fields "x" (by decide)
    · exact fields "y" (by decide)
    · exact fields "states" (by decide)
    · exact fields "z" (by decide)
  · obtain ⟨_, _, faults, _⟩ := complete_resolves stacked (referring (.str "ring"))
    rw [faults]
    refine ⟨[("ring", referring (.str "round")), ("round", referring (.str "ring"))],
      .str "ring", ?_, by decide, .again (by decide)⟩
    exact .visit rfl (.visit rfl (.here _))

end Storyboard.Templates
