import Storyboard.Fault
import Storyboard.Json.Basic
import Storyboard.Text.Basic

/-!
# Triggers

A trigger names stage objects to spawn and to destroy, and says when: as certain notes are
cleared, at a combo, or from a score on. Every field of a written trigger may be left out. The
first field that cannot be read decides the fault, in the order kind, uses, notes, spawn, destroy,
combo, score.
-/
namespace Storyboard

inductive TriggerKind where
  | none
  | noteClear
  | combo
  | score
deriving DecidableEq, Repr

namespace TriggerKind

/-- The kind written by a word, in any case. -/
def ofText? (text : String) : Option TriggerKind :=
  let word := Text.lower text
  if word = "none" then some .none
  else if word = "noteclear" then some .noteClear
  else if word = "combo" then some .combo
  else if word = "score" then some .score
  else Option.none

def ofText (text : String) : Except Fault TriggerKind :=
  match ofText? text with
  | some kind => .ok kind
  | Option.none => .error (.of (.unknownTriggerType (Text.lower text)))

/-- The name of the kind in reports. -/
def title : TriggerKind → String
  | none => "None"
  | noteClear => "NoteClear"
  | combo => "Combo"
  | score => "Score"

end TriggerKind

structure Trigger where
  kind : TriggerKind
  /-- How often the trigger may fire; without a number there is no limit. -/
  uses : Option Nat
  currentUses : UInt32
  notes : List NoteId
  spawn : List String
  destroy : List String
  combo : Int
  score : Int
  /-- The note that made the trigger fire last. -/
  triggerer : Option Note
deriving DecidableEq, Repr

namespace Trigger

/-- An integer field; a null counts as left out. -/
def integerIn {α : Type} (node : Node) (field : String) (default : α) (read : Json → Option α) :
    Except Fault α :=
  match node.given? field with
  | none => .ok default
  | some value =>
    match read value with
    | some n => .ok n
    | none => .error (.of (.triggerNotInteger field))

/-- A list field; a null counts as left out. -/
def listIn {α : Type} (node : Node) (field : String) (read : Json → Option α) :
    Except Fault (List α) :=
  match node.given? field with
  | none => .ok []
  | some (.arr items) =>
    items.mapM fun item =>
      match read item with
      | some value => .ok value
      | none => .error (.of (.triggerBadEntry field))
  | some _ => .error (.of (.triggerNotArray field))

def kindIn (node : Node) : Except Fault TriggerKind :=
  match node.given? "type" with
  | none => .ok .none
  | some (.str text) => TriggerKind.ofText text
  | some _ => .error (.of .triggerTypeNotString)

/-- A number of uses is a limit if it is positive and fits 32 bits. -/
def limitOf (uses : Int) : Option Nat :=
  if 1 ≤ uses ∧ uses < 0x100000000 then some uses.toNat else none

def ofNode (node : Node) : Except Fault Trigger := do
  let kind ← kindIn node
  let uses ← integerIn node "uses" none fun value => value.int64?.map limitOf
  let notes ← listIn node "notes" Json.int32?
  let spawn ← listIn node "spawn" Json.string?
  let destroy ← listIn node "destroy" Json.string?
  let combo ← integerIn node "combo" 0 fun value => value.int32?.map Int32.toInt
  let score ← integerIn node "score" 0 Json.int64?
  return {
    kind, uses, notes, spawn, destroy, combo, score
    currentUses := 0
    triggerer := none }

def ofJson (value : Json) : Except Fault Trigger :=
  match value with
  | .obj fields => ofNode fields
  | _ => .error (.of .triggerNotObject)

end Trigger
end Storyboard
