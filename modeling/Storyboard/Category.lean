import Storyboard.Number.Binary64

/-!
# Categories of stage objects

Each category has its own array in a document and its own schema of attributes.
-/
namespace Storyboard

inductive Category where
  | text
  | sprite
  | video
  | line
  | controller
  | noteController
deriving DecidableEq, Repr

namespace Category

/-- The order in which the categories of a document are loaded. -/
def all : List Category := [text, sprite, video, line, controller, noteController]

/-- The name of the document array that holds the category. -/
def key : Category → String
  | text => "texts"
  | sprite => "sprites"
  | video => "videos"
  | line => "lines"
  | controller => "controllers"
  | noteController => "note_controllers"

def name : Category → String
  | text => "text"
  | sprite => "sprite"
  | video => "video"
  | line => "line"
  | controller => "controller"
  | noteController => "note_controller"

/-- What a state of the category is called in reports on its shape. -/
def stateRecord : Category → String
  | text => "struct TextState"
  | sprite => "struct SpriteState"
  | video => "struct VideoState"
  | line => "struct LineState"
  | controller => "struct ControllerState"
  | noteController => "struct NoteControllerState"

/-- The time of a declaration that has none. -/
def defaultTime? : Category → Option Finite64
  | controller | noteController => some Finite64.zero
  | text | sprite | video | line => none

end Category

/-- One value for each category. -/
structure PerCategory (α : Category → Type) where
  texts : α .text
  sprites : α .sprite
  videos : α .video
  lines : α .line
  controllers : α .controller
  noteControllers : α .noteController

namespace PerCategory

variable {α : Category → Type}

def get (values : PerCategory α) : (category : Category) → α category
  | .text => values.texts
  | .sprite => values.sprites
  | .video => values.videos
  | .line => values.lines
  | .controller => values.controllers
  | .noteController => values.noteControllers

def ofFn (value : (category : Category) → α category) : PerCategory α where
  texts := value .text
  sprites := value .sprite
  videos := value .video
  lines := value .line
  controllers := value .controller
  noteControllers := value .noteController

theorem ext_get {values others : PerCategory α}
    (same : ∀ category, values.get category = others.get category) : values = others := by
  cases values
  cases others
  simp only [mk.injEq]
  exact ⟨same .text, same .sprite, same .video, same .line, same .controller, same .noteController⟩

instance [(category : Category) → DecidableEq (α category)] : DecidableEq (PerCategory α) :=
  fun values others =>
    if same : ∀ category ∈ Category.all, values.get category = others.get category then
      isTrue (ext_get fun category => same category (by cases category <;> simp [Category.all]))
    else isFalse fun equal => same fun _ _ => equal ▸ rfl

@[simp] theorem get_ofFn (value : (category : Category) → α category) (category : Category) :
    (ofFn value).get category = value category := by
  cases category <;> rfl

/-- Computes the values in the order of the categories, each step handing a value on to the next. -/
def scan {σ : Type} (step : (category : Category) → σ → α category × σ) (start : σ) :
    PerCategory α × σ :=
  let (texts, s) := step .text start
  let (sprites, s) := step .sprite s
  let (videos, s) := step .video s
  let (lines, s) := step .line s
  let (controllers, s) := step .controller s
  let (noteControllers, s) := step .noteController s
  (⟨texts, sprites, videos, lines, controllers, noteControllers⟩, s)

/-- The values in the order of the categories. -/
def toList {γ : Type} (values : PerCategory α) (f : (category : Category) → α category → γ) :
    List γ :=
  Category.all.map fun category => f category (values.get category)

/-- Computes the values in the order of the categories, up to the first error. -/
def tryEach {ε : Type} (compute : (category : Category) → Except ε (α category)) :
    Except ε (PerCategory α) := do
  let texts ← compute .text
  let sprites ← compute .sprite
  let videos ← compute .video
  let lines ← compute .line
  let controllers ← compute .controller
  let noteControllers ← compute .noteController
  return ⟨texts, sprites, videos, lines, controllers, noteControllers⟩

end PerCategory
end Storyboard
