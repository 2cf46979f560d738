import Storyboard.Proofs.Inheritance

/-!
# Overlaid attributes

One state is laid over another attribute by attribute, as the lists of names say, and these lists
have every field of the schemas. So what is true of one value over another is true of whole states:
a blank patch changes nothing, a state laid over itself changes nothing, and patches can be put
together before they are laid over a state. The attributes of a category are a monoid under laying
over, which acts on the states and leaves their times alone.
-/
namespace Storyboard

open Json

variable {category : Category}

/-! ## Rows and attributes by their fields -/

namespace Row

variable {fields others : List Field}

/-- Rows with the same values under the names of their fields are the same. -/
theorem ext_get? (distinct : (fields.map Field.name).Nodup) {row other : Row fields}
    (same : ∀ field ∈ fields,
      Keyed.get? row.entries field.name = Keyed.get? other.entries field.name) : row = other := by
  -- both rows are what is read where the values of the first one are given
  let given (name : String) : Option Draft :=
    (Keyed.get? row.entries name).map fun value => .ofJson value.toJson
  have one : read given fields = .ok row := read_of_found distinct fun _ _ => rfl
  have two : read given fields = .ok other := by
    refine read_of_found distinct fun field member => ?_
    rw [← same field member]
  exact Except.ok.inj (one.symm.trans two)

theorem append_inj {row other : Row fields} {further another : Row others}
    (same : row.append further = other.append another) : row = other ∧ further = another := by
  induction fields with
  | nil => exact ⟨rfl, same⟩
  | cons field rest ih =>
    obtain ⟨first, later⟩ := Prod.mk.inj same
    obtain ⟨rows, ends⟩ := ih later
    exact ⟨Prod.ext first rows, ends⟩

end Row

namespace Attributes

/-- Attributes with the same values in all fields of their category are the same. -/
theorem ext_get? {attributes other : Attributes category}
    (same : ∀ field ∈ category.attributeFields,
      attributes.get? field.name = other.get? field.name) : attributes = other := by
  -- the three groups are compared as one row, in which no name is used twice
  have whole : attributes.whole = other.whole := by
    refine Row.ext_get? category.attributeFields_nodup fun field member => ?_
    rw [← get?_eq_whole, ← get?_eq_whole]
    exact same field member
  obtain ⟨front, placement⟩ := Row.append_inj whole
  obtain ⟨own, common⟩ := Row.append_inj front
  cases attributes
  cases other
  rw [mk.injEq]
  exact ⟨own, common, placement⟩

theorem overlay_blank (attributes : Attributes category) :
    attributes.overlay (blank category) = attributes :=
  ext_get? fun _ _ => by rw [get?_overlay, get?_blank, Option.none_or]

theorem blank_overlay (attributes : Attributes category) :
    (blank category).overlay attributes = attributes :=
  ext_get? fun _ _ => by rw [get?_overlay, get?_blank, Option.or_none]

theorem overlay_self (attributes : Attributes category) :
    attributes.overlay attributes = attributes :=
  ext_get? fun _ _ => by rw [get?_overlay, Option.or_self]

theorem overlay_assoc (first second third : Attributes category) :
    (first.overlay second).overlay third = first.overlay (second.overlay third) :=
  ext_get? fun _ _ => by
    rw [get?_overlay, get?_overlay, get?_overlay, get?_overlay, Option.or_assoc]

end Attributes

/-! ## States -/

namespace State

/-- A state has the times of the lower one of two states and, in each field of its category, the
value that the upper one gives, or else that of the lower one. -/
structure IsOverlay (lower upper state : State category) : Prop where
  time : state.time = lower.time
  relativeTime : state.relativeTime = lower.relativeTime
  addTime : state.addTime = lower.addTime
  attributes : ∀ field ∈ category.attributeFields, state.attributes.get? field.name =
    (upper.attributes.get? field.name).or (lower.attributes.get? field.name)

/-- The fields decide the whole state: there is one that has these values, and no other. -/
theorem isOverlay_iff {lower upper state : State category} :
    IsOverlay lower upper state ↔ state = lower.overlay upper := by
  constructor
  · rintro ⟨time, relativeTime, addTime, values⟩
    have attributes : state.attributes = lower.attributes.overlay upper.attributes := by
      refine Attributes.ext_get? fun field member => ?_
      rw [values field member, Attributes.get?_overlay]
    cases state
    rw [overlay, mk.injEq]
    exact ⟨time, relativeTime, addTime, attributes⟩
  · rintro rfl
    exact ⟨rfl, rfl, rfl, fun _ _ => Attributes.get?_overlay ..⟩

/-- **States laid over each other.** The lists of what is laid over have every attribute field of
the category and nothing else. So a patch laid over a state gives the state that keeps all three
times and has, in every attribute field of its category, the value of the patch where the patch
gives one, and its old value otherwise. The blank state is neutral on both sides, as far as the
attributes go: laid over a state it changes nothing, and laid over it a state gives its attributes.
A state laid over itself changes nothing, and two patches can be laid over a state one after the
other or be put together first. -/
theorem overlay_acts (first second third : State category) :
    category.overlaid.Perm (category.attributeFields.map Field.name) ∧
    (∀ state, IsOverlay first second state ↔ state = first.overlay second) ∧
    first.overlay (blank category) = first ∧
    ((blank category).overlay first).attributes = first.attributes ∧
    first.overlay first = first ∧
    (first.overlay second).overlay third = first.overlay (second.overlay third) := by
  -- only the attributes change, so a law of the attributes is a law of the states
  have keeps {attributes other : Attributes category} (same : attributes = other) :
      ({ first with attributes } : State category) = { first with attributes := other } :=
    congrArg (fun attributes => { first with attributes }) same
  exact ⟨category.overlaid_perm, fun _ => isOverlay_iff,
    keeps first.attributes.overlay_blank,
    first.attributes.blank_overlay,
    keeps first.attributes.overlay_self,
    keeps (Attributes.overlay_assoc ..)⟩

/-! A sprite at the second 3 and a patch for the second 9: path and layer are replaced, the color
and the easing stay, and so do the times. -/

def banner : State .sprite where
  time := .ofInt 3
  relativeTime := none
  addTime := none
  attributes :=
    { own := (some "a.png", none, ())
      common := (none, some "linear", ())
      placement := (some "red", none, none, some (2 : Int32), Row.blank _) }

def laterBanner : State .sprite where
  time := .ofInt 9
  relativeTime := some Finite64.zero
  addTime := none
  attributes :=
    { own := (some "b.png", none, ())
      common := (none, none, ())
      placement := (none, none, none, some (5 : Int32), Row.blank _) }

theorem overlay_acts_banner :
    (banner.overlay laterBanner).time = .ofInt 3 ∧
    (banner.overlay laterBanner).relativeTime = none ∧
    (banner.overlay laterBanner).attributes.get? "path" = some (.text "b.png") ∧
    (banner.overlay laterBanner).attributes.get? "easing" = some (.text "linear") ∧
    (banner.overlay laterBanner).attributes.get? "color" = some (.text "red") ∧
    (banner.overlay laterBanner).attributes.get? "layer" = some (.integer 5) ∧
    (banner.overlay laterBanner).overlay banner = banner.overlay (laterBanner.overlay banner) := by
  obtain ⟨-, decided, -, -, -, regrouped⟩ := overlay_acts banner laterBanner banner
  have laid := (decided _).2 rfl
  refine ⟨laid.time, laid.relativeTime, ?_, ?_, ?_, ?_, regrouped⟩
  · exact laid.attributes ⟨"path", .text⟩ (by decide)
  · exact laid.attributes ⟨"easing", .text⟩ (by decide)
  · exact laid.attributes ⟨"color", .text⟩ (by decide)
  · exact laid.attributes ⟨"layer", .integer⟩ (by decide)

end State
end Storyboard
