import Storyboard.Category
import Storyboard.State.Field

/-!
# Schemas of the categories

The attributes of a state fall into three groups: those of its category alone, those that every
state has, and the placement on the stage, which texts, sprites and videos share. A shape that
does not fit is reported for the groups in this order and within a group in the order of the
names.
-/
namespace Storyboard

def commonFields : List Field :=
  [⟨"destroy", .flag⟩, ⟨"easing", .text⟩]

def placementFields : List Field :=
  [⟨"color", .text⟩, ⟨"fill_width", .flag⟩, ⟨"height", .real⟩, ⟨"layer", .integer⟩,
   ⟨"opacity", .real⟩, ⟨"order", .integer⟩, ⟨"pivot_x", .real⟩, ⟨"pivot_y", .real⟩,
   ⟨"rot_x", .real⟩, ⟨"rot_y", .real⟩, ⟨"rot_z", .real⟩, ⟨"scale_x", .real⟩, ⟨"scale_y", .real⟩,
   ⟨"width", .real⟩, ⟨"x", .real⟩, ⟨"y", .real⟩, ⟨"z", .real⟩]

namespace Category

/-- The attributes of the category alone. -/
def ownFields : Category → List Field
  | text =>
    [⟨"align", .text⟩, ⟨"font_weight", .text⟩, ⟨"letter_spacing", .real⟩, ⟨"size", .integer⟩,
     ⟨"text", .text⟩]
  | sprite => [⟨"path", .text⟩, ⟨"preserve_aspect", .flag⟩]
  | video => [⟨"path", .text⟩]
  | line =>
    [⟨"color", .text⟩, ⟨"layer", .integer⟩, ⟨"opacity", .real⟩, ⟨"order", .integer⟩,
     ⟨"pos", .points⟩, ⟨"width", .real⟩]
  | controller =>
    [⟨"background_dim", .real⟩, ⟨"bloom", .flag⟩, ⟨"bloom_intensity", .real⟩,
     ⟨"chromatic", .flag⟩, ⟨"chromatic_intensity", .real⟩, ⟨"fov", .real⟩,
     ⟨"gray_scale", .flag⟩, ⟨"gray_scale_intensity", .real⟩, ⟨"noise", .flag⟩,
     ⟨"noise_intensity", .real⟩, ⟨"note_fill_color", .text⟩, ⟨"note_opacity_multiplier", .real⟩,
     ⟨"note_ring_color", .text⟩, ⟨"override_scanline_pos", .flag⟩, ⟨"perspective", .flag⟩,
     ⟨"rot_x", .real⟩, ⟨"rot_y", .real⟩, ⟨"rot_z", .real⟩, ⟨"scanline_color", .text⟩,
     ⟨"scanline_opacity", .real⟩, ⟨"scanline_pos", .real⟩, ⟨"size", .real⟩,
     ⟨"storyboard_opacity", .real⟩, ⟨"ui_opacity", .real⟩, ⟨"vignette", .flag⟩,
     ⟨"vignette_color", .text⟩, ⟨"vignette_intensity", .real⟩, ⟨"x", .real⟩, ⟨"y", .real⟩,
     ⟨"z", .real⟩]
  | noteController =>
    [⟨"fill_color", .text⟩, ⟨"hold_direction", .integer⟩, ⟨"note", .integer⟩,
     ⟨"opacity_multiplier", .real⟩, ⟨"override_x", .flag⟩, ⟨"override_y", .flag⟩,
     ⟨"override_z", .flag⟩, ⟨"ring_color", .text⟩, ⟨"rot_x", .real⟩, ⟨"rot_y", .real⟩,
     ⟨"rot_z", .real⟩, ⟨"size_multiplier", .real⟩, ⟨"style", .integer⟩, ⟨"x", .real⟩,
     ⟨"y", .real⟩, ⟨"z", .real⟩]

/-- The placement attributes of the categories that stand on the stage. -/
def placement : Category → List Field
  | text | sprite | video => placementFields
  | line | controller | noteController => []

end Category

/-! ## Fields that are laid over others

Which fields one state takes over from another is listed apart from the schemas, in lists of names
for the same three groups. -/

def commonOverlaid : List String := ["easing", "destroy"]

def placementOverlaid : List String :=
  ["x", "y", "z", "rot_x", "rot_y", "rot_z", "scale_x", "scale_y", "opacity", "width", "height",
   "pivot_x", "pivot_y", "color", "layer", "order", "fill_width"]

namespace Category

/-- The attributes of the category alone that are laid over. -/
def ownOverlaid : Category → List String
  | text => ["text", "size", "align", "letter_spacing", "font_weight"]
  | sprite => ["path", "preserve_aspect"]
  | video => ["path"]
  | line => ["pos", "width", "color", "opacity", "layer", "order"]
  | controller =>
    ["storyboard_opacity", "ui_opacity", "scanline_opacity", "background_dim",
     "note_opacity_multiplier", "size", "fov", "perspective", "x", "y", "z", "rot_x", "rot_y",
     "rot_z", "override_scanline_pos", "scanline_pos", "scanline_color", "note_ring_color",
     "note_fill_color", "bloom", "bloom_intensity", "vignette", "vignette_intensity",
     "vignette_color", "chromatic", "chromatic_intensity", "gray_scale", "gray_scale_intensity",
     "noise", "noise_intensity"]
  | noteController =>
    ["note", "override_x", "x", "override_y", "y", "override_z", "z", "rot_x", "rot_y", "rot_z",
     "opacity_multiplier", "size_multiplier", "hold_direction", "style", "ring_color",
     "fill_color"]

/-- The placement attributes that are laid over, where a category has a placement. -/
def placementOverlaid : Category → List String
  | text | sprite | video => Storyboard.placementOverlaid
  | line | controller | noteController => []

end Category

structure Attributes (category : Category) where
  own : Row category.ownFields
  common : Row commonFields
  placement : Row category.placement
deriving DecidableEq

namespace Attributes

variable {category : Category}

def blank (category : Category) : Attributes category where
  own := Row.blank _
  common := Row.blank _
  placement := Row.blank _

/-- Lays the attributes of one state over those of another, by the lists of names. -/
def overlay (lower upper : Attributes category) : Attributes category where
  own := lower.own.overlay category.ownOverlaid upper.own
  common := lower.common.overlay commonOverlaid upper.common
  placement := lower.placement.overlay category.placementOverlaid upper.placement

/-- Reads the attributes that are given under their names. -/
def read (category : Category) (given : String → Option Json.Draft) :
    Except Json.Mismatch (Attributes category) := do
  let own ← Row.read given category.ownFields
  let common ← Row.read given commonFields
  let placement ← Row.read given category.placement
  return ⟨own, common, placement⟩

/-- The attributes as they are written, a null for each that is left out. -/
def toFields (attributes : Attributes category) : List (String × Json) :=
  attributes.own.toFields ++ attributes.common.toFields ++ attributes.placement.toFields

/-- The attributes that are given, with their names. -/
def entries (attributes : Attributes category) : List (String × Attribute) :=
  attributes.own.entries ++ attributes.common.entries ++ attributes.placement.entries

end Attributes
end Storyboard
