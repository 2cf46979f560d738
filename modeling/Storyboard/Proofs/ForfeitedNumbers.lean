import Storyboard.Proofs.FilledTexts
import Storyboard.Proofs.Isolation

/-!
# Numbers of declarations that fail

A declaration that fails should leave the counter of generated ids as it was. Almost every fault is
met before the counter moves on, but the id is generated before the target and the parent are
filled in. So a declaration without an id still takes its number if its target or its parent has
the placeholder and there is no note for it, and this module shows that no other one does.

Main statement: `Board.ofJson_without_failing`.
-/
namespace Storyboard

variable {category : Category} {chart : Chart} {templates : Templates}

/-! ## Faults of the last stage -/

namespace Prepared

/-- A declaration that takes a number and then fails: it has no id, and its target or its parent has
the placeholder, which stands for nothing. -/
structure Forfeits (prepared : Prepared category) : Prop where
  unnamed : prepared.id = none
  unbound : prepared.binding.use prepared.own = none
  refers : ∃ text, (prepared.targetId = some text ∨ prepared.parentId = some text) ∧
    ¬ Placeholder.Free text

variable {prepared : Prepared category} {counter : Nat} {fault : Fault}

theorem eq_of_filled?_error {given : Option String}
    (failed : prepared.filled? given = .error fault) :
    ∃ text, given = some text ∧ ¬ Placeholder.Free text ∧
      prepared.binding.use prepared.own = none ∧ fault = (Fault.of .unboundNote).within text := by
  cases given with
  | none => cases failed
  | some text =>
    exact ⟨text, rfl, Placeholder.eq_of_fillIn_error (Result.map_eq_error_iff.1 failed)⟩

theorem exists_filled?_error {given : Option String} {text : String} (present : given = some text)
    (refers : ¬ Placeholder.Free text) (unbound : prepared.binding.use prepared.own = none) :
    ∃ fault, prepared.filled? given = .error fault := by
  refine ⟨(Fault.of .unboundNote).within text, ?_⟩
  rw [present, filled?, filled, Placeholder.fillIn, if_pos (Placeholder.not_free_iff.1 refers),
    unbound]
  rfl

theorem finish_of_unnamed (unnamed : prepared.id = none) (counter : Nat) :
    prepared.finish counter =
      (do
        let targetId ← prepared.filled? prepared.targetId
        let parentId ← prepared.filled? prepared.parentId
        return ⟨numberedId category (counter + 1), targetId, parentId, prepared.states⟩,
        counter + 1) := by
  rw [finish, unnamed]
  rfl

theorem finish_of_named {text : String} (named : prepared.id = some text) (counter : Nat) :
    prepared.finish counter = ((prepared.finish 0).1, counter) := by
  simp only [finish, named]

/-- Behind a generated id, the target and the parent are all that can fail. -/
theorem finish_of_forfeits (forfeits : prepared.Forfeits) (counter : Nat) :
    ∃ fault, (prepared.finish counter).1 = .error fault := by
  obtain ⟨text, given, refers⟩ := forfeits.refers
  rw [finish_of_unnamed forfeits.unnamed]
  -- the target may fail first, but then it fails as well
  rcases given with target | parent
  · obtain ⟨fault, failed⟩ := exists_filled?_error target refers forfeits.unbound
    exact ⟨fault, Result.bind_eq_error_iff.2 (.inl failed)⟩
  · obtain ⟨fault, failed⟩ := exists_filled?_error parent refers forfeits.unbound
    cases prepared.filled? prepared.targetId with
    | error earlier => exact ⟨earlier, rfl⟩
    | ok targetId =>
      refine ⟨fault, Result.bind_eq_error_iff.2 (.inr ⟨targetId, rfl, ?_⟩)⟩
      exact Result.bind_eq_error_iff.2 (.inl failed)

theorem forfeits_of_finish (unnamed : prepared.id = none)
    (failed : (prepared.finish counter).1 = .error fault) :
    prepared.Forfeits ∧ ∃ text, fault = (Fault.of .unboundNote).within text := by
  rw [finish_of_unnamed unnamed] at failed
  rcases Result.bind_eq_error_iff.1 failed with first | ⟨targetId, _, later⟩
  · obtain ⟨text, given, refers, unbound, same⟩ := eq_of_filled?_error first
    exact ⟨⟨unnamed, unbound, text, .inl given, refers⟩, text, same⟩
  · rcases Result.bind_eq_error_iff.1 later with second | ⟨_, _, last⟩
    · obtain ⟨text, given, refers, unbound, same⟩ := eq_of_filled?_error second
      exact ⟨⟨unnamed, unbound, text, .inr given, refers⟩, text, same⟩
    · cases last

end Prepared

/-! ## Declarations that fail -/

namespace Declarations

/-- A declaration whose states are built and that forfeits the number it takes. -/
def Forfeits (chart : Chart) (templates : Templates) (category : Category) (node : Node) : Prop :=
  ∃ prepared, Prepared.ofNode category chart templates node = .ok prepared ∧ prepared.Forfeits

variable {node : Node} {counter : Nat} {stop : Stop Fault}

/-- A declaration that fails and forfeits no number fails in the same way wherever it stands, and
leaves the counter as it is. -/
theorem object_of_not_forfeits (kept : ¬ Forfeits chart templates category node)
    (failed : (object chart templates category node counter).1 = .error stop) (other : Nat) :
    object chart templates category node other = (.error stop, other) := by
  rw [object] at failed ⊢
  cases made : Prepared.ofNode category chart templates node with
  | error first =>
    rw [made] at failed
    cases failed
    rfl
  | ok prepared =>
    rw [made] at failed
    obtain ⟨fault, unfilled, rfl⟩ := Result.mapError_eq_error_iff.1 failed
    cases named : prepared.id with
    | none => exact absurd ⟨prepared, made, (Prepared.forfeits_of_finish named unfilled).1⟩ kept
    | some text =>
      simp only [Prepared.finish_of_named named counter] at unfilled
      simp only [Prepared.finish_of_named named other, unfilled]
      rfl

theorem object_of_forfeits (forfeits : Forfeits chart templates category node) (counter : Nat) :
    ∃ text, object chart templates category node counter =
      (.error (.failed ((Fault.of .unboundNote).within text)), counter + 1) := by
  obtain ⟨prepared, made, forfeits⟩ := forfeits
  obtain ⟨fault, failed⟩ := Prepared.finish_of_forfeits forfeits counter
  obtain ⟨_, text, rfl⟩ := Prepared.forfeits_of_finish forfeits.unnamed failed
  refine ⟨text, ?_⟩
  simp only [object, made]
  refine Prod.ext (congrArg (Except.mapError Stop.failed) failed) ?_
  rw [Prepared.finish_of_unnamed forfeits.unnamed]

/-- An element of a category array each of whose variants fails, and none of whose variants forfeits
a number. -/
def FailsIdly (chart : Chart) (templates : Templates) (category : Category) (item : Json) : Prop :=
  ∀ node variants, item = .obj node → fanOut chart node = .ok variants →
    ∀ variant ∈ variants, ¬ Forfeits chart templates category variant ∧
      ∃ counter fault, (object chart templates category variant counter).1 = .error (.failed fault)

namespace FailsIdly

variable {item : Json}

/-- What such an element stands for fails and takes no number. -/
theorem of_mem_variantsOf {index : Nat} {variant : Variant}
    (idly : FailsIdly chart templates category item)
    (member : variant ∈ variantsOf chart (item, index)) (counter : Nat) :
    (∃ fault, (variant.outcome chart templates category counter).result =
        .error (.failed fault)) ∧
      variant.isNumbered chart templates category = false := by
  cases item with
  | obj node =>
    simp only [variantsOf] at member
    cases fanned : fanOut chart node with
    | error fault =>
      rw [fanned] at member
      cases List.mem_singleton.1 member
      exact ⟨⟨fault, rfl⟩, rfl⟩
    | ok nodes =>
      rw [fanned] at member
      obtain ⟨made, inside, rfl⟩ := List.mem_map.1 member
      obtain ⟨kept, _, fault, failed⟩ := idly node nodes rfl fanned made inside
      have same := object_of_not_forfeits kept failed counter
      refine ⟨⟨fault, congrArg Prod.fst same⟩, ?_⟩
      -- the counter stays where it is, so the variant takes no number
      have moved := @object_counter chart templates category made counter index
      rw [same, numbers_singleton] at moved
      split at moved
      · simp at moved
      · next plain => exact Bool.eq_false_iff.2 plain
  | _ =>
    cases List.mem_singleton.1 member
    exact ⟨⟨_, rfl⟩, rfl⟩

theorem addsNothing (idly : FailsIdly chart templates category item) (counter : Nat)
    (front : List Json) : AddsNothing chart templates category counter front item where
  reported := by
    rw [ofElement_eq]
    intro placed inside
    obtain ⟨⟨before, variant⟩, among, same⟩ := List.mem_map.1 (mem_of_mem_withFront inside)
    obtain ⟨fault, failed⟩ : ∃ fault, placed.2.result = .error (.failed fault) := by
      rw [← same]
      exact (idly.of_mem_variantsOf (mem_of_mem_withFront among) _).1
    rw [Outcome.diagnostic?, failed]
    rfl
  still := by
    rw [ofElement_eq]
    refine Nat.add_eq_left.2 (List.countP_eq_zero.2 fun variant member => ?_)
    exact Bool.eq_false_iff.1 (idly.of_mem_variantsOf member counter).2

end FailsIdly
end Declarations

/-! ## Documents -/

namespace Board

open Declarations

/-- **Declarations that fail.** A declaration that fails leaves the counter of generated ids as it
is unless it forfeits its number, and one that forfeits it always fails, for a note that nothing is
bound to, with the counter one further. An element of a category array all of whose variants fail,
without forfeiting a number, leaves no trace but its diagnostics: the document without it loads to
the same tables, and so under the same generated ids, and to the same triggers and templates. -/
theorem ofJson_without_failing (chart : Chart) (category : Category) :
    (∀ (templates : Templates) (node : Node) (counter : Nat) (stop : Stop Fault),
      (object chart templates category node counter).1 = .error stop →
        ((object chart templates category node counter).2 = counter ↔
          ¬ Forfeits chart templates category node)) ∧
    (∀ (templates : Templates) (node : Node) (counter : Nat),
      Forfeits chart templates category node →
        ∃ text, object chart templates category node counter =
          (.error (.failed ((Fault.of .unboundNote).within text)), counter + 1)) ∧
    ∀ (root : Node) (front : List Json) (item : Json) (back : List Json) (board : Board),
      isCompiled root = false →
      root.given? category.key = some (.arr (front ++ item :: back)) →
      ofJson chart false (.obj root) = .ok board →
      FailsIdly chart board.templates category item →
        ofJson chart false (.obj (Keyed.insert category.key (.arr (front ++ back)) root)) =
          .ok { board with
            diagnostics := Fault.without category front.length board.diagnostics } := by
  refine ⟨?_, ?_, ?_⟩
  · intro templates node counter stop failed
    constructor
    · intro still forfeits
      obtain ⟨_, moved⟩ := object_of_forfeits forfeits counter
      rw [moved] at still
      exact Nat.succ_ne_self counter still
    · intro kept
      rw [object_of_not_forfeits kept failed counter]
  · exact fun templates node counter forfeits => object_of_forfeits forfeits counter
  · intro root front item back board raw given loaded idly
    obtain ⟨read, _⟩ := templates_of_ofJson raw loaded
    have removal : Removal chart board.templates root category front item back :=
      ⟨given, idly.addsNothing _ front⟩
    have whole : withTemplates chart false root board.templates = .ok board := by
      rw [← loaded, ofJson_of_raw raw, read, Result.mapError_ok_bind]
    rw [ofJson_insert raw, read, Result.mapError_ok_bind, withTemplates_without removal, whole]
    rfl

/-! A text without an id is behind one that fails for its target, and behind one that fails for its
id. -/

def targetingNode : Node := [("target_id", .str "$note")]

def namedNode : Node := [("id", .str "$note")]

theorem forfeits_targeting : Forfeits Chart.empty Templates.empty .text targetingNode := by
  have computed : (Prepared.ofNode .text Chart.empty Templates.empty targetingNode).toOption.map
      (fun prepared => (prepared.id, prepared.binding.use prepared.own, prepared.targetId)) =
        some (none, none, some "$note") := by
    decide +kernel
  obtain ⟨prepared, found, same⟩ := Option.map_eq_some_iff.1 computed
  obtain ⟨unnamed, others⟩ := Prod.mk.inj same
  obtain ⟨unbound, target⟩ := Prod.mk.inj others
  exact ⟨prepared, Result.eq_ok_of_toOption found,
    unnamed, unbound, "$note", .inl target, Placeholder.not_free_iff.2 (by decide)⟩

theorem not_forfeits_named : ¬ Forfeits Chart.empty Templates.empty .text namedNode := by
  rintro ⟨prepared, made, forfeits⟩
  have computed : (Prepared.ofNode .text Chart.empty Templates.empty namedNode).toOption.map
      Prepared.id = some (some "$note") := by
    decide +kernel
  rw [made] at computed
  exact absurd (forfeits.unnamed.symm.trans (Option.some.inj computed)) nofun

/-- The ids in the table of texts. -/
def textIds (board : Board) : List String :=
  (board.tables.get .text).objects.map StageObject.id

theorem ofJson_without_failing_unbound :
    (∃ text, object Chart.empty Templates.empty .text targetingNode 0 =
      (.error (.failed ((Fault.of .unboundNote).within text)), 1)) ∧
    (∃ board,
      ofJson Chart.empty false (.obj [("texts", .arr [.obj targetingNode, .obj []])]) = .ok board ∧
        textIds board = ["auto:texts:2"]) ∧
    (∃ fault, object Chart.empty Templates.empty .text namedNode 0 =
      (.error (.failed fault), 0)) ∧
    ∃ board faults,
      ofJson Chart.empty false (.obj [("texts", .arr [.obj namedNode, .obj []])]) = .ok board ∧
        textIds board = ["auto:texts:1"] ∧
        ofJson Chart.empty false (.obj [("texts", .arr [.obj []])]) =
          .ok { board with diagnostics := faults } := by
  obtain ⟨still, forfeited, removable⟩ := ofJson_without_failing Chart.empty .text
  have loads (first : Node) (ids : List String)
      (computed : (ofJson Chart.empty false
        (.obj [("texts", .arr [.obj first, .obj []])])).toOption.map textIds = some ids) :
      ∃ board, ofJson Chart.empty false (.obj [("texts", .arr [.obj first, .obj []])]) =
        .ok board ∧ textIds board = ids := by
    obtain ⟨board, found, same⟩ := Option.map_eq_some_iff.1 computed
    exact ⟨board, Result.eq_ok_of_toOption found, same⟩
  obtain ⟨fault, failed⟩ : ∃ fault,
      (object Chart.empty Templates.empty .text namedNode 0).1 = .error (.failed fault) :=
    ⟨_, rfl⟩
  refine ⟨forfeited _ _ 0 forfeits_targeting, loads _ _ (by decide +kernel), ⟨fault, ?_⟩, ?_⟩
  · exact Prod.ext failed ((still _ _ _ _ failed).2 not_forfeits_named)
  · obtain ⟨board, loaded, ids⟩ := loads namedNode ["auto:texts:1"] (by decide +kernel)
    have plain : board.templates = Templates.empty :=
      (Except.ok.inj (templates_of_ofJson rfl loaded).1).symm
    have idly : FailsIdly Chart.empty board.templates .text (.obj namedNode) := by
      rintro node variants ⟨⟩ fanned variant member
      cases fanned
      cases List.mem_singleton.1 member
      rw [plain]
      exact ⟨not_forfeits_named, 0, fault, failed⟩
    exact ⟨board, _, loaded, ids,
      removable _ [] (.obj namedNode) [.obj []] board rfl rfl loaded idly⟩

end Board
end Storyboard
