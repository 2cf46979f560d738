import Storyboard.Category
import Storyboard.Chart.Basic
import Storyboard.Json.Mismatch

/-!
# Faults

What can be wrong with a document, each cause with its code, its kind and its message, and the place
where it was found. A fault either stops a load or stands among the diagnostics of a loaded board.

Work that goes on without end is no fault: it is never reported, and nothing comes after it.
-/
namespace Storyboard

/-- Why there is no result: there is a reason for it, or the work goes on without end. -/
inductive Stop (ε : Type) where
  | failed (reason : ε)
  | endless
deriving DecidableEq, Repr

/-- The same stop with its reason in another form. -/
def Stop.map {ε δ : Type} (f : ε → δ) : Stop ε → Stop δ
  | failed reason => failed (f reason)
  | endless => endless

/-- Why a file cannot be read or written. -/
inductive FileTrouble where
  | notFound
  | notDirectory
  | directory
  | nameTooLong
  | notText
  | other (reason : String)
deriving DecidableEq, Repr

def FileTrouble.message : FileTrouble → String
  | notFound => "No such file or directory (os error 2)"
  | notDirectory => "Not a directory (os error 20)"
  | directory => "Is a directory (os error 21)"
  | nameTooLong => "File name too long (os error 36)"
  | notText => "stream did not contain valid UTF-8"
  | other reason => reason

inductive Fault.Kind where
  | parse
  | shape
  | storage
  | reference
  | identity
  | validation
  | trigger
deriving DecidableEq, Repr

def Fault.Kind.name : Fault.Kind → String
  | parse => "Parse"
  | shape => "Structure"
  | storage => "IO"
  | reference => "Reference"
  | identity => "Identity"
  | validation => "Validation"
  | trigger => "Trigger"

inductive Fault.Cause where
  | textNotJson
  | rootNotObject
  | notArray (key : String)
  | declarationNotObject
  | stateNotObject
  | templatesNotObject
  | templateNotObject (id : String)
  | missingArray (category : Category)
  | badObject (mismatch : Json.Mismatch)
  | unreadableFile (trouble : FileTrouble)
  | unwritableFile (trouble : FileTrouble)
  | unboundNote
  | unknownNote (id : NoteId)
  | unknownTemplate (id : String)
  | templateCycle (id : String)
  | idWithTarget
  | targetWithParent
  | redefinition (id : String)
  | notString (key : String)
  | badState (category : Category) (mismatch : Json.Mismatch)
  | noteIdNotInteger
  | badNote
  | selectorNotInteger (field : String)
  | selectorNotNumber (field : String)
  | triggerTypeNotString
  | unknownTriggerType (name : String)
  | triggersNotArray
  | triggerNotObject
  | triggerNotInteger (field : String)
  | triggerNotArray (field : String)
  | triggerBadEntry (field : String)
deriving DecidableEq

namespace Fault.Cause

def code : Cause → String
  | textNotJson => "E1001"
  | rootNotObject => "E1002"
  | notArray _ | declarationNotObject | stateNotObject | templatesNotObject
  | templateNotObject _ => "E1003"
  | missingArray _ => "E1101"
  | badObject _ => "E1102"
  | unreadableFile _ => "E2001"
  | unwritableFile _ => "E2002"
  | unboundNote => "E3001"
  | unknownNote _ => "E3002"
  | unknownTemplate _ => "E3003"
  | templateCycle _ => "E3004"
  | idWithTarget => "E4001"
  | targetWithParent => "E4002"
  | redefinition _ => "E4101"
  | notString _ | badState _ _ | noteIdNotInteger | badNote | selectorNotInteger _
  | selectorNotNumber _ => "E4102"
  | triggerTypeNotString | unknownTriggerType _ => "E5001"
  | triggersNotArray | triggerNotObject | triggerNotInteger _ | triggerNotArray _
  | triggerBadEntry _ => "E5002"

def kind : Cause → Kind
  | textNotJson | rootNotObject | notArray _ | declarationNotObject | stateNotObject
  | templatesNotObject | templateNotObject _ => .parse
  | missingArray _ | badObject _ => .shape
  | unreadableFile _ | unwritableFile _ => .storage
  | unboundNote | unknownNote _ | unknownTemplate _ | templateCycle _ => .reference
  | idWithTarget | targetWithParent => .identity
  | redefinition _ | notString _ | badState _ _ | noteIdNotInteger | badNote
  | selectorNotInteger _ | selectorNotNumber _ => .validation
  | triggerTypeNotString | unknownTriggerType _ | triggersNotArray | triggerNotObject
  | triggerNotInteger _ | triggerNotArray _ | triggerBadEntry _ => .trigger

def message : Cause → String
  | textNotJson => "invalid storyboard json"
  | rootNotObject => "storyboard root must be an object"
  | notArray key => s!"`{key}` must be an array"
  | declarationNotObject => "declarations must be objects"
  | stateNotObject => "state declarations must be objects"
  | templatesNotObject => "`templates` must be an object"
  | templateNotObject id => s!"template `{id}` must be an object"
  | missingArray category => s!"compiled storyboard is missing the `{category.key}` array"
  | badObject mismatch => "invalid compiled object: " ++ mismatch.message
  | unreadableFile trouble => "failed to read storyboard: " ++ trouble.message
  | unwritableFile trouble => "failed to write compiled storyboard: " ++ trouble.message
  | unboundNote => "$note used without a note on the declaration or an earlier binding"
  | unknownNote id => s!"unknown note id {id.toInt}"
  | unknownTemplate id => s!"unknown template `{id}`"
  | templateCycle id => s!"template inheritance cycle through `{id}`"
  | idWithTarget => "a stage object cannot have both id and target_id"
  | targetWithParent => "a stage object cannot have both target_id and parent_id"
  | redefinition id => s!"redefinition of `{id}`"
  | notString key => s!"`{key}` must be a string"
  | badState category mismatch => s!"invalid {category.key} state: {mismatch.message}"
  | noteIdNotInteger => "note ids must be integers"
  | badNote => "`note` must be an integer, an array of integers or a selector"
  | selectorNotInteger field => s!"note selector `{field}` must be an integer"
  | selectorNotNumber field => s!"note selector `{field}` must be a number"
  | triggerTypeNotString => "trigger `type` must be a string"
  | unknownTriggerType name => "unknown trigger type: " ++ name
  | triggersNotArray => "`triggers` must be an array"
  | triggerNotObject => "triggers must be objects"
  | triggerNotInteger field => s!"trigger `{field}` must be an integer"
  | triggerNotArray field => s!"trigger `{field}` must be an array"
  | triggerBadEntry field => s!"trigger `{field}` has an invalid entry"

end Fault.Cause

structure Fault where
  cause : Fault.Cause
  category : Option Category := none
  objectId : Option String := none
  /-- The position of the declaration in its array. -/
  index : Option Nat := none
  /-- The piece of the document that is at fault. -/
  context : Option String := none
  file : Option String := none
deriving DecidableEq

namespace Fault

/-- A fault that is known by its cause alone. -/
def of (cause : Cause) : Fault := { cause }

def within (fault : Fault) (context : String) : Fault := { fault with context := some context }

/-- A fault in an element of a category array. -/
def located (fault : Fault) (category : Category) (index : Nat) : Fault :=
  { fault with category := some category, index := some index }

def inFile (fault : Fault) (file : String) : Fault := { fault with file := some file }

/-- Code and message in one line. -/
def summary (fault : Fault) : String := fault.cause.code ++ ": " ++ fault.cause.message

end Fault
end Storyboard
