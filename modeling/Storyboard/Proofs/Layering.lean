import Storyboard.Proofs.Lineage
import Storyboard.Proofs.Overlays

/-!
# Attributes of layers

A declaration is laid over the fragments of its templates before its attributes are read. They could
as well be read from each level by itself and laid over each other: reading a field and laying it
over another one can be done in either order, as long as no level gives a null. A null is a value
like any other for a template, and hides what is below it, but it gives no attribute.
-/
namespace Storyboard

open Json

/-! ## Attributes that are read from two levels -/

namespace Row

variable {fields : List Field}

/-- A field that is read from two levels is the upper value over the lower one, unless the upper
level gives a null. -/
theorem readGiven_or {field : Field} {upper lower : Option Json}
    {above below : Option field.kind.Value} (solid : upper ≠ some .null)
    (readUpper : field.readGiven (upper.map Draft.ofJson) = .ok above)
    (readLower : field.readGiven (lower.map Draft.ofJson) = .ok below) :
    field.readGiven ((upper.or lower).map Draft.ofJson) = .ok (above.or below) := by
  rcases Field.readGiven_cases readUpper with ⟨absent | null, rfl⟩ | ⟨written, v, rfl, _, _, rfl⟩
  · rw [absent, Option.none_or, Option.none_or]
    exact readLower
  · exact absurd null solid
  · exact readUpper

/-- A row that is read from two levels is the upper row over the lower one, if no field is left out
of what is laid over. -/
theorem read_or {names : List String} (lists : names.Perm (fields.map Field.name))
    {upper lower : String → Option Json} {above below : Row fields}
    (solid : ∀ name, upper name ≠ some .null)
    (readUpper : read (fun name => (upper name).map Draft.ofJson) fields = .ok above)
    (readLower : read (fun name => (lower name).map Draft.ofJson) fields = .ok below) :
    read (fun name => ((upper name).or (lower name)).map Draft.ofJson) fields =
      .ok (below.overlay names above) := by
  have covered : ∀ field ∈ fields, field.name ∈ names :=
    fun field member => lists.mem_iff.2 (List.mem_map_of_mem member)
  clear lists
  induction fields with
  | nil => rfl
  | cons field rest ih =>
    obtain ⟨first, others⟩ := read_cons_eq_ok_iff.1 readUpper
    obtain ⟨start, further⟩ := read_cons_eq_ok_iff.1 readLower
    obtain ⟨listed, covered⟩ := List.forall_mem_cons.1 covered
    rw [read_cons_eq_ok_iff, overlay_cons, if_pos listed]
    exact ⟨readGiven_or (solid field.name) first start, ih others further covered⟩

theorem read_none (fields : List Field) : read (fun _ => none) fields = .ok (blank fields) := by
  induction fields with
  | nil => rfl
  | cons field rest ih =>
    rw [read_cons_eq_ok_iff]
    exact ⟨rfl, ih⟩

end Row

namespace Attributes

variable {category : Category}

/-- Patches laid over some attributes, the last one first, so that the first one is on top. -/
def layered (start : Attributes category) (patches : List (Attributes category)) :
    Attributes category :=
  patches.foldr (fun patch below => below.overlay patch) start

theorem layered_cons (start patch : Attributes category) (rest : List (Attributes category)) :
    start.layered (patch :: rest) = (start.layered rest).overlay patch := rfl

/-- Patches can be laid over each other before they are laid over the attributes. -/
theorem layered_eq_overlay (start : Attributes category) (patches : List (Attributes category)) :
    start.layered patches = start.overlay ((blank category).layered patches) := by
  induction patches with
  | nil => exact (overlay_blank start).symm
  | cons patch rest ih => rw [layered_cons, layered_cons, ih, overlay_assoc]

theorem read_or {upper lower : String → Option Json} {above below : Attributes category}
    (solid : ∀ name, upper name ≠ some .null)
    (readUpper : read category (fun name => (upper name).map Draft.ofJson) = .ok above)
    (readLower : read category (fun name => (lower name).map Draft.ofJson) = .ok below) :
    read category (fun name => ((upper name).or (lower name)).map Draft.ofJson) =
      .ok (below.overlay above) := by
  rw [read_eq_ok_iff] at readUpper readLower ⊢
  obtain ⟨own, common, placement⟩ := readUpper
  obtain ⟨lowerOwn, lowerCommon, lowerPlacement⟩ := readLower
  exact ⟨Row.read_or category.ownOverlaid_perm solid own lowerOwn,
    Row.read_or commonOverlaid_perm solid common lowerCommon,
    Row.read_or category.placementOverlaid_perm solid placement lowerPlacement⟩

theorem read_none : read category (fun _ => none) = .ok (blank category) :=
  read_eq_ok_iff.2 ⟨Row.read_none _, Row.read_none _, Row.read_none _⟩

end Attributes

/-! ## Levels of a declaration -/

/-- A declaration without the fields that say where it belongs, when it is, and what is nested in
it. -/
def Node.unstructured (node : Node) : Node := Category.structuralKeys.foldr Keyed.erase node

theorem Node.get?_unstructured (node : Node) {key : String}
    (kept : key ∉ Category.structuralKeys) :
    Keyed.get? node.unstructured key = Keyed.get? node key := by
  unfold unstructured
  generalize Category.structuralKeys = keys at kept
  induction keys with
  | nil => rfl
  | cons first rest ih =>
    simp only [List.mem_cons, not_or] at kept
    rw [List.foldr_cons, Keyed.get?_erase, if_neg (Ne.symm kept.1)]
    exact ih kept.2

namespace State

variable {category : Category} {templates : Templates} {levels fragments : List Node}
  {node merged : Node} {patches : List (Attributes category)}

/-- No field of a declaration is a null. -/
def Solid (node : Node) : Prop := ∀ key, Keyed.get? node key ≠ some .null

theorem patchOf_unstructured (category : Category) (node : Node) :
    patchOf category node.unstructured = patchOf category node := by
  have read : Attributes.read category
        (fun name => (Keyed.get? node.unstructured name).map Draft.ofJson) =
      Attributes.read category (fun name => (Keyed.get? node name).map Draft.ofJson) := by
    apply Attributes.read_congr
    intro field member
    rw [node.get?_unstructured (category.name_not_structural field member)]
  rw [patchOf, patchOf, read]

/-- What is read through levels that each give a patch of their own are the patches laid over each
other. -/
theorem read_levels (solid : ∀ level ∈ levels, Solid level)
    (given : levels.mapM (patchOf category) = .ok patches) :
    Attributes.read category
        (fun name => (levels.findSome? (Keyed.get? · name)).map Draft.ofJson) =
      .ok ((Attributes.blank category).layered patches) := by
  rw [Result.mapM_eq_ok_iff] at given
  induction given with
  | nil => exact Attributes.read_none
  | @cons level patch rest others own _ ih =>
    have below := ih fun lower member => solid lower (List.mem_cons_of_mem _ member)
    have laid := Attributes.read_or (solid level (List.mem_cons_self ..))
      (patchOf_eq_ok_iff.1 own) below
    -- the first level that has a field is the upper one, or else the first one below it
    have nearest (name : String) : (level :: rest).findSome? (Keyed.get? · name) =
        (Keyed.get? level name).or (rest.findSome? (Keyed.get? · name)) := by
      rw [List.findSome?_cons]
      cases Keyed.get? level name <;> rfl
    simp only [nearest]
    exact laid

/-- A declaration that is laid over its templates gives the patches of its levels, laid over each
other. -/
theorem patchOf_complete (done : templates.complete node = .ok merged)
    (lineage : templates.IsLineage node fragments)
    (solid : ∀ level ∈ node :: fragments, Solid level)
    (given : (node :: fragments).mapM (patchOf category) = .ok patches) :
    patchOf category merged = .ok ((Attributes.blank category).layered patches) := by
  rw [patchOf_eq_ok_iff, ← read_levels solid given]
  apply Attributes.read_congr
  intro field member
  have kept : field.name ≠ "template" := by
    intro same
    exact category.name_not_structural field member (same ▸ by decide)
  rw [Templates.get?_complete done lineage kept]

/-- **Layers of a state.** Take a declaration whose references to templates lead to some fragments,
the nearest first. If none of these levels gives a null in any field, and if each of them by itself
gives a patch of attributes, then the declaration can be laid over its templates and has a state
behind any other. The attributes of this state are those of the state in front, or none after a
reset, with the patches of all levels laid over them: first that of the base, last that of the
declaration itself. -/
theorem follow_layers (lineage : templates.IsLineage node fragments)
    (solid : ∀ level ∈ node :: fragments, Solid level)
    (given : (node :: fragments).mapM (fun level => patchOf category level.unstructured) =
      .ok patches) (before : Option (State category)) :
    ∃ merged state, templates.complete node = .ok merged ∧ follow before merged = .ok state ∧
      state.attributes =
        (if resets merged then Attributes.blank category
          else (before.getD (blank category)).attributes).layered patches := by
  simp only [patchOf_unstructured] at given
  obtain ⟨merged, done⟩ := Templates.exists_complete_iff.2 ⟨fragments, lineage⟩
  have patch := patchOf_complete done lineage solid given
  refine ⟨merged, _, done, Result.bind_eq_ok_iff.2 ⟨_, patch, rfl⟩, ?_⟩
  have start : (if resets merged then blank category
        else before.getD (blank category)).attributes =
      if resets merged then Attributes.blank category
        else (before.getD (blank category)).attributes := by
    split <;> rfl
  -- the patches laid over each other and then over the start are the patches laid over the start
  exact (congrArg (Attributes.overlay · _) start).trans
    (Attributes.layered_eq_overlay _ patches).symm

/-! A text over two fragments, behind a state with a size and a color: the base gives the size and
the alignment, and the derived fragment another alignment. -/

def centered : Node := [("align", .str "center"), ("size", .int 12)]

def leaning : Node := [("align", .str "left"), ("template", .str "centered")]

def typography : Templates where
  fragments := [("centered", centered), ("leaning", leaning)]

def caption : Node := [("template", .str "leaning"), ("text", .str "now")]

def shownBefore : State .text :=
  { blank .text with
    attributes :=
      { Attributes.blank .text with
        own := (some "right", none, none, some (40 : Int32), some "then", ())
        common := (none, some "linear", ()) } }

theorem follow_layers_caption :
    typography.IsLineage caption [leaning, centered] ∧
    (∀ level ∈ [caption, leaning, centered], Solid level) ∧
    (∃ patches, [caption, leaning, centered].mapM
      (fun level => patchOf .text level.unstructured) = .ok patches) ∧
    ∃ merged state, typography.complete caption = .ok merged ∧
      follow (some shownBefore) merged = .ok state ∧
      state.attributes.own = (some "left", none, none, some (12 : Int32), some "now", ()) ∧
      state.attributes.common = (none, some "linear", ()) := by
  have lineage : typography.IsLineage caption [leaning, centered] :=
    ⟨[("leaning", leaning), ("centered", centered)], none,
      .visit rfl (.visit rfl (.here none)), .inl rfl, rfl⟩
  have solid : ∀ level ∈ [caption, leaning, centered], Solid level := by
    intro level member key null
    have values : ∀ level ∈ [caption, leaning, centered], ∀ entry ∈ level, entry.2 ≠ .null := by
      decide
    exact values level member _ (Keyed.mem_of_get? null) rfl
  have computed : (([caption, leaning, centered].mapM fun level =>
        patchOf .text level.unstructured).toOption.map fun patches =>
          (shownBefore.attributes.layered patches)) =
      some { Attributes.blank .text with
        own := (some "left", none, none, some (12 : Int32), some "now", ())
        common := (none, some "linear", ()) } := by
    decide +kernel
  obtain ⟨patches, read, laid⟩ := Option.map_eq_some_iff.1 computed
  obtain ⟨merged, state, done, followed, attributes⟩ :=
    follow_layers lineage solid (Result.eq_ok_of_toOption read) (some shownBefore)
  have silent : Keyed.get? merged "reset" = none := Templates.get?_complete done lineage (by decide)
  have kept : resets merged = false := by
    rw [resets, silent]
    rfl
  rw [kept] at attributes
  have whole := attributes.trans laid
  exact ⟨lineage, solid, ⟨patches, Result.eq_ok_of_toOption read⟩, merged, state, done, followed,
    congrArg Attributes.own whole, congrArg Attributes.common whole⟩

end State
end Storyboard
