import Storyboard.Proofs.Endings
import Storyboard.Proofs.WrittenTriggers

/-!
# Accounts of a load

Nothing in a document of declarations is lost or counted twice, unless its load goes on without
end. Its load can fail for its templates only. Otherwise every outcome of a category array is an
object of the table or one diagnostic, and every element of the trigger array is an armed trigger or
one diagnostic.
-/
namespace Storyboard

/-! ## Templates -/

namespace Templates

/-- What the templates of a document may be: nothing, or an object of objects. -/
inductive Shaped : Option Json → Prop
  | absent : Shaped none
  | null : Shaped (some .null)
  | fragments {entries : List (String × Json)}
      (each : ∀ entry ∈ entries, ∃ fragment, entry.2 = .obj fragment) : Shaped (some (.obj entries))

theorem fragmentOf_eq_ok_iff {entry : String × Json} :
    (∃ fragment, fragmentOf entry = .ok fragment) ↔ ∃ fragment, entry.2 = .obj fragment := by
  obtain ⟨id, value⟩ := entry
  cases value <;> simp [fragmentOf]

theorem ofJson_eq_ok_iff {value : Option Json} :
    (∃ templates, ofJson value = .ok templates) ↔ Shaped value := by
  constructor
  · rintro ⟨templates, done⟩
    unfold ofJson at done
    split at done
    · exact .absent
    · exact .null
    · obtain ⟨fragments, read, _⟩ := Result.map_eq_ok_iff.1 done
      refine .fragments fun entry member => fragmentOf_eq_ok_iff.1 ?_
      exact Result.exists_mapM_eq_ok_iff.1 ⟨fragments, read⟩ entry member
    · cases done
  · intro shaped
    cases shaped with
    | absent => exact ⟨_, rfl⟩
    | null => exact ⟨_, rfl⟩
    | fragments each =>
      obtain ⟨fragments, read⟩ := Result.exists_mapM_eq_ok_iff.2 fun entry member =>
        fragmentOf_eq_ok_iff.2 (each entry member)
      exact ⟨_, Result.map_eq_ok_iff.2 ⟨fragments, read, rfl⟩⟩

end Templates

/-! ## Triggers -/

namespace Declarations

/-- The diagnostic of an element of the trigger array, if it gives one. -/
def triggerFault? (element : Json × Nat) : Option Fault :=
  match Trigger.ofJson element.1 with
  | .ok _ => none
  | .error fault => some { fault with index := some element.2 }

theorem ofTriggerItems_eq (items : List Json) (index : Nat) :
    ofTriggerItems index items =
      (items.filterMap fun item => (Trigger.ofJson item).toOption,
        (items.zipIdx index).filterMap triggerFault?) := by
  induction items generalizing index with
  | nil => rfl
  | cons item rest ih =>
    rw [ofTriggerItems, ih, List.zipIdx_cons, List.filterMap_cons, List.filterMap_cons]
    simp only [triggerFault?]
    cases Trigger.ofJson item with
    | ok trigger => rfl
    | error fault => rfl

theorem length_triggers (items : List Json) (index : Nat) :
    (items.filterMap fun item => (Trigger.ofJson item).toOption).length +
      ((items.zipIdx index).filterMap triggerFault?).length = items.length := by
  induction items generalizing index with
  | nil => rfl
  | cons item rest ih =>
    have others := ih (index + 1)
    rw [List.zipIdx_cons, List.filterMap_cons, List.filterMap_cons, List.length_cons]
    simp only [triggerFault?] at others ⊢
    cases Trigger.ofJson item with
    | ok trigger =>
      simp only [Except.toOption, List.length_cons] at others ⊢
      omega
    | error fault =>
      simp only [Except.toOption, List.length_cons] at others ⊢
      omega

/-- The elements of the trigger array of a document. -/
def triggerItems (root : Node) : List Json :=
  match root.given? "triggers" with
  | some (.arr items) => items
  | _ => []

/-- The diagnostics of the triggers of a document. -/
def triggerFaultsIn (root : Node) : List Fault :=
  match root.given? "triggers" with
  | none => []
  | some (.arr items) => items.zipIdx.filterMap triggerFault?
  | some _ => [.of .triggersNotArray]

theorem triggers_eq (root : Node) :
    triggers root =
      ((triggerItems root).filterMap fun item => (Trigger.ofJson item).toOption,
        triggerFaultsIn root) := by
  simp only [triggers, triggerItems, triggerFaultsIn]
  cases root.given? "triggers" with
  | none => rfl
  | some value =>
    cases value with
    | arr items => exact ofTriggerItems_eq items 0
    | _ => rfl

end Declarations

/-! ## Places of diagnostics -/

variable {category : Category}

theorem Outcome.place_of_mem_diagnosticsBehind {front outcomes : List (Outcome category)}
    {fault : Fault} (member : fault ∈ diagnosticsBehind front outcomes) :
    fault.category = some category ∧ ∃ outcome ∈ outcomes, fault.index = some outcome.index := by
  obtain ⟨⟨between, outcome⟩, inside, given⟩ := List.mem_filterMap.1 member
  have among := mem_of_mem_withFront inside
  simp only [diagnostic?] at given
  split at given
  · cases given
  · cases given
    exact ⟨rfl, outcome, among, rfl⟩
  · obtain ⟨earlier, _, same⟩ := Option.map_eq_some_iff.1 given
    cases same
    exact ⟨rfl, outcome, among, rfl⟩

/-- The faults that name no category. -/
def Fault.Uncategorized (fault : Fault) : Prop := fault.category = none

theorem Trigger.ofJson_fails (value : Json) :
    Result.FailsOnlyWith Fault.Uncategorized (ofJson value) := by
  intro fault failed
  rcases ofJson_eq_error_iff.1 failed with ⟨-, rfl⟩ | ⟨node, -, _, entry, _, _, _, _, _, _, rfl⟩
  · rfl
  · rfl

namespace Declarations

variable {chart : Chart} {templates : Templates} {root : Node}

theorem category_of_mem_diagnosticsIn {fault : Fault}
    (member : fault ∈ diagnosticsIn chart templates root category) :
    fault.category = some category := by
  unfold diagnosticsIn at member
  split at member
  · exact (Outcome.place_of_mem_diagnosticsBehind member).1
  · exact (Outcome.place_of_mem_diagnosticsBehind member).1
  · rw [List.mem_singleton.1 member]

theorem uncategorized_of_mem_triggerFaultsIn {root : Node} {fault : Fault}
    (member : fault ∈ triggerFaultsIn root) : fault.Uncategorized := by
  unfold triggerFaultsIn at member
  split at member
  · cases member
  · obtain ⟨⟨item, index⟩, _, given⟩ := List.mem_filterMap.1 member
    simp only [triggerFault?] at given
    split at given
    · cases given
    · next first failed =>
      cases given
      exact Trigger.ofJson_fails item first failed
  · rw [List.mem_singleton.1 member]
    rfl

/-- The diagnostics of a board that name a category are those of the category. -/
theorem mem_diagnosticsIn_iff {fault : Fault} :
    fault ∈ diagnosticsIn chart templates root category ↔
      fault ∈ (board chart templates root).diagnostics ∧ fault.category = some category := by
  constructor
  · intro member
    have listed : category ∈ Category.all := by cases category <;> decide
    exact ⟨List.mem_append_left _ (List.mem_flatMap.2 ⟨category, listed, member⟩),
      category_of_mem_diagnosticsIn member⟩
  · rintro ⟨member, located⟩
    rcases List.mem_append.1 member with inside | inside
    · obtain ⟨other, _, among⟩ := List.mem_flatMap.1 inside
      rw [category_of_mem_diagnosticsIn among] at located
      cases located
      exact among
    · rw [triggers_eq] at inside
      rw [uncategorized_of_mem_triggerFaultsIn inside] at located
      cases located

end Declarations

namespace Board

open Declarations
open Relation (TransGen)

variable {chart : Chart} {root : Node}

theorem ofJson_eq_failed_iff (raw : isCompiled root = false) :
    (∃ fault, ofJson chart false (.obj root) = .error (.failed fault)) ↔
      ¬ Templates.Shaped (Keyed.get? root "templates") := by
  rw [ofJson_of_raw raw, ← Templates.ofJson_eq_ok_iff]
  -- a lenient load passes every board, so only the templates can make it fail
  cases Templates.ofJson (Keyed.get? root "templates") with
  | error fault =>
    rw [Result.mapError_error_bind]
    simp
  | ok templates =>
    rw [Result.mapError_ok_bind]
    cases finished : ends chart templates root with
    | false =>
      rw [withTemplates_of_endless finished]
      simp
    | true =>
      rw [withTemplates_of_ends finished, checked_false]
      simp [Except.mapError]

theorem exists_ofJson_of_acyclic (raw : isCompiled root = false) {templates : Templates}
    (read : Templates.ofJson (Keyed.get? root "templates") = .ok templates)
    (acyclic : ∀ id, ¬ TransGen templates.Nests id id) :
    ∃ board, ofJson chart false (.obj root) = .ok board := by
  rw [ofJson_of_raw raw, read, Result.mapError_ok_bind,
    withTemplates_of_ends (ends_of_acyclic acyclic)]
  exact ⟨_, rfl⟩

/-- **Accounts of a load.** A lenient load of a document of declarations fails exactly if its
templates are no object of objects, and it goes on without end exactly if making the states of some
declaration does. Neither happens if the templates are an object of objects of which none is nested
in itself. Otherwise the table of a category array holds the first object of each id among the
outcomes of the array, which come in the order of its elements; the diagnostics of the category are
those that looking back gives its outcomes, each under its category and the position of its element;
and objects and diagnostics together are as many as outcomes. A category without an array has no
object. The diagnostics of the board are those of the categories, in order, and then those of the
triggers. The armed triggers are the elements of the trigger array that load, in order, and together
with the trigger diagnostics they are as many as the elements. -/
theorem ofJson_accounts (raw : isCompiled root = false) :
    ((∃ fault, ofJson chart false (.obj root) = .error (.failed fault)) ↔
      ¬ Templates.Shaped (Keyed.get? root "templates")) ∧
    (ofJson chart false (.obj root) = .error .endless ↔
      ∃ templates, Templates.ofJson (Keyed.get? root "templates") = .ok templates ∧
        ∃ category, ∃ variant ∈ variantsIn chart root category,
          variant.GoesOn chart templates category) ∧
    (∀ templates, Templates.ofJson (Keyed.get? root "templates") = .ok templates →
      (∀ id, ¬ TransGen templates.Nests id id) →
      ∃ board, ofJson chart false (.obj root) = .ok board) ∧
    ∀ board, ofJson chart false (.obj root) = .ok board →
      (∀ category items, root.given? category.key = some (.arr items) →
        ∃ outcomes, outcomes = outcomesIn chart board.templates root category ∧
          (∀ id, (board.tables.get category).get? id = Outcome.first? outcomes id) ∧
          diagnosticsIn chart board.templates root category = Outcome.diagnostics outcomes ∧
          (∀ fault ∈ Outcome.diagnostics outcomes, fault.category = some category ∧
            ∃ outcome ∈ outcomes, fault.index = some outcome.index) ∧
          (board.tables.get category).size + (Outcome.diagnostics outcomes).length =
            outcomes.length) ∧
      (∀ category, (∀ items, root.given? category.key ≠ some (.arr items)) →
        board.tables.get category = Table.empty) ∧
      board.triggers =
        (triggerItems root).filterMap (fun item => (Trigger.ofJson item).toOption) ∧
      board.diagnostics =
        Category.all.flatMap (diagnosticsIn chart board.templates root) ++ triggerFaultsIn root ∧
      (∀ items, root.given? "triggers" = some (.arr items) →
        triggerItems root = items ∧ triggerFaultsIn root = items.zipIdx.filterMap triggerFault? ∧
        board.triggers.length + (triggerFaultsIn root).length = items.length) := by
  refine ⟨ofJson_eq_failed_iff raw, ofJson_eq_endless_iff raw,
    fun _ read acyclic => exists_ofJson_of_acyclic raw read acyclic, fun board loaded => ?_⟩
  obtain ⟨_, finished, same⟩ := exists_of_ofJson raw loaded
  have armed : board.triggers =
      (triggerItems root).filterMap fun item => (Trigger.ofJson item).toOption := by
    rw [same, Declarations.board, triggers_eq]
  refine ⟨fun category items given => ?_, fun category bare => ?_, armed, ?_, ?_⟩
  · have counted := @size_tables_board_of_ends chart board.templates root category finished
    refine ⟨_, rfl, fun id => ?_, ?_, ?_, ?_⟩
    · rw [same]
      exact get?_tables_board id
    · rw [diagnosticsIn, given]
    · exact fun fault => Outcome.place_of_mem_diagnosticsBehind
    · rw [← same] at counted
      exact counted
  · rw [same]
    exact table_board_of_not_array bare
  · rw [same, Declarations.board, triggers_eq]
  · intro items given
    have elements : triggerItems root = items := by rw [triggerItems, given]
    have reported : triggerFaultsIn root = items.zipIdx.filterMap triggerFault? := by
      rw [triggerFaultsIn, given]
    refine ⟨elements, reported, ?_⟩
    rw [armed, elements, reported]
    exact length_triggers items 0

/-! Texts of which one is kept and four are reported, a field of lines that is no array, and one
trigger of two. And a template that is nested in itself, with two texts of which one uses it. -/

def mixedRoot : Node :=
  [("lines", .int 5),
   ("texts", .arr
      [.int 7,
       .obj [("id", .str "b"), ("note", .str "first")],
       .obj [("id", .str "a")],
       .obj [("id", .str "a"), ("time", .int 1)],
       .obj [("id", .str "b"), ("target_id", .str "a")]]),
   ("triggers", .arr [.obj [("type", .str "combo")], .null])]

def echo : Node := [("states", .arr [.obj [("template", .str "echo")]])]

def echoes : Templates where
  fragments := [("echo", echo)]

def echoingRoot : Node :=
  [("templates", .obj [("echo", .obj echo)]),
   ("texts", .arr [.obj [("template", .str "echo")], .obj [("id", .str "ok"), ("time", .int 1)]])]

/-- Below what the template gives, the walk comes to the same again. -/
theorem descends_echo (room : Nat) : Descends .text Chart.empty echoes room (echo, none) := by
  induction room with
  | zero => exact .here _
  | succ room ih =>
    have unfolded : Outline.children Chart.empty echo =
        .ok ([] ++ [[("template", .str "echo")]]) := rfl
    exact .deeper (.intro unfolded (.done none) rfl rfl) ih

theorem ofJson_accounts_mixed :
    (isCompiled mixedRoot = false ∧
      ∃ board, ofJson Chart.empty false (.obj mixedRoot) = .ok board ∧
        (board.tables.get .text).size = 1 ∧ board.tables.get .line = Table.empty ∧
        board.triggers.length = 1 ∧
        board.diagnostics.map (fun fault => (fault.cause.code, fault.category, fault.index)) =
          [("E1003", some .text, some 0), ("E4102", some .text, some 1),
           ("E4101", some .text, some 3), ("E4001", some .text, some 4),
           ("E1003", some .line, none), ("E5002", none, some 1)]) ∧
    isCompiled echoingRoot = false ∧
    ofJson Chart.empty false (.obj echoingRoot) = .error .endless := by
  have mixed : isCompiled mixedRoot = false := by decide
  have echoing : isCompiled echoingRoot = false := by decide
  refine ⟨⟨mixed, ?_⟩, echoing, ?_⟩
  · have ended : (ofJson Chart.empty false (.obj mixedRoot)).toOption.isSome := by decide +kernel
    obtain ⟨board, given⟩ := Option.isSome_iff_exists.1 ended
    have loaded := Result.eq_ok_of_toOption given
    have plain : board.templates = Templates.empty :=
      (Except.ok.inj (templates_of_ofJson mixed loaded).1).symm
    obtain ⟨arrays, others, _, reported, triggers⟩ := (ofJson_accounts mixed).2.2.2 board loaded
    obtain ⟨outcomes, made, _, _, _, counted⟩ := arrays .text _ rfl
    rw [plain] at made reported
    subst made
    obtain ⟨_, _, elements⟩ := triggers _ rfl
    refine ⟨board, loaded, ?_, others .line nofun, ?_, ?_⟩
    · have lengths :
          (Outcome.diagnostics
            (outcomesIn Chart.empty Templates.empty mixedRoot .text)).length = 4 ∧
          (outcomesIn Chart.empty Templates.empty mixedRoot .text).length = 5 := by
        decide +kernel
      omega
    · have faults : (triggerFaultsIn mixedRoot).length = 1 := by decide +kernel
      simp only [faults, List.length_cons, List.length_nil] at elements
      omega
    · rw [reported]
      decide +kernel
  · -- the first text is what the template gives, and the second one is never come to
    let first : Variant := ⟨0, .ok [("template", .str "echo")]⟩
    have listed : first ∈ variantsIn Chart.empty echoingRoot .text := List.mem_cons_self ..
    have goesOn : first.GoesOn Chart.empty echoes .text :=
      ⟨_, echo, _, none, rfl, rfl, rfl, rfl, descends_echo⟩
    exact (ofJson_accounts echoing).2.1.2 ⟨echoes, rfl, .text, first, listed, goesOn⟩

end Board
end Storyboard
