import Storyboard.Declaration.Placeholder
import Storyboard.Number.Decimal
import Storyboard.Text.Basic

/-!
# Time tokens

A time is a number of seconds or a text `anchor:note` or `anchor:note:offset` that refers to a
moment of a note. The anchors `intro`, `start` and `end` take the offset in seconds; `at` takes it
as the part of the way from the start to the end of the note. A text of another form is no time,
and that is no fault; a well-formed text fails only if it refers to no note.
-/
namespace Storyboard

inductive Anchor where
  | intro
  | start
  | finish
  | between
deriving DecidableEq, Repr

/-- Anchors are written in any case, without blanks. -/
def Anchor.ofText? (text : List Char) : Option Anchor :=
  let word := text.map Char.toLower
  if word = "intro".toList then some .intro
  else if word = "start".toList then some .start
  else if word = "end".toList then some .finish
  else if word = "at".toList then some .between
  else none

/-- The moment of a note that an anchor and an offset name. -/
def Anchor.time (anchor : Anchor) (note : Note) (offset : Binary64) : Binary64 :=
  match anchor with
  | .intro => note.introTime + offset
  | .start => note.startTime + offset
  | .finish => note.endTime + offset
  | .between => note.startTime + (note.endTime - note.startTime) * offset

inductive NoteReference where
  | placeholder
  | id (id : NoteId)
deriving DecidableEq, Repr

/-- The placeholder must be written exactly; blanks around an id are ignored. -/
def NoteReference.ofText? (text : List Char) : Option NoteReference :=
  if text = Placeholder.word then some .placeholder
  else (int32OfText? (Text.trim text)).map .id

structure TimeToken where
  anchor : Anchor
  note : NoteReference
  offset : Binary64
deriving DecidableEq, Repr

namespace TimeToken

def ofText? (text : String) : Option TimeToken :=
  match Text.pieces ':' text.toList with
  | [anchor, note] => do
    let anchor ← Anchor.ofText? anchor
    let note ← NoteReference.ofText? note
    return ⟨anchor, note, Binary64.zero false⟩
  | [anchor, note, offset] => do
    let anchor ← Anchor.ofText? anchor
    let offset ← Binary64.ofText? (Text.trim offset)
    let note ← NoteReference.ofText? note
    return ⟨anchor, note, offset⟩
  | _ => none

/-- The note a token refers to. -/
def noteId (token : TimeToken) (binding : Binding) (own : Option NoteId) : Except Fault NoteId :=
  match token.note with
  | .id id => .ok id
  | .placeholder =>
    match binding.use own with
    | some id => .ok id
    | none => .error (.of .unboundNote)

def resolve (token : TimeToken) (chart : Chart) (binding : Binding) (own : Option NoteId) :
    Except Fault Binary64 := do
  let id ← token.noteId binding own
  match chart.note? id with
  | some note => .ok (token.anchor.time note token.offset)
  | none => .error (.of (.unknownNote id))

end TimeToken

namespace WrittenTime

/-- The time that a field value stands for, if it stands for one. -/
def resolve (chart : Chart) (binding : Binding) (own : Option NoteId) (value : Option Json) :
    Except Fault (Option Binary64) :=
  match value with
  | some (.str text) =>
    match TimeToken.ofText? text with
    | none => .ok none
    | some token =>
      match token.resolve chart binding own with
      | .ok time => .ok (some time)
      | .error fault => .error (fault.within text)
  | some value => .ok (value.real?.map Finite64.toBinary)
  | none => .ok none

/-- What is bound after a field value is resolved as a time: only a well-formed text with the
placeholder binds, and it does so even if the note is unknown. -/
def bindingAfter (binding : Binding) (own : Option NoteId) (value : Option Json) : Binding :=
  match value with
  | some (.str text) =>
    match TimeToken.ofText? text with
    | some ⟨_, .placeholder, _⟩ => binding.use own
    | _ => binding
  | _ => binding

end WrittenTime
end Storyboard
