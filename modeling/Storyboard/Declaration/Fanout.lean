import Storyboard.Declaration.Selector

/-!
# Fanning out declarations

An array in a time field and a list of notes each stand for several declarations. The first time
field with a non-empty array fans out, and the variants for its items come before the fan-out over
the notes: the result is their product, with the notes running faster.
-/
namespace Storyboard

namespace Fanout

/-- The time fields in the order in which they are looked at. -/
def timeFields : List String := ["relative_time", "add_time", "time"]

/-- The first time field that fans out, with its items. -/
def timeItems? (node : Node) : Option (String × List Json) :=
  timeFields.findSome? fun field =>
    match Keyed.get? node field with
    | some (.arr (item :: items)) => some (field, item :: items)
    | _ => none

def times (node : Node) : List Node :=
  match timeItems? node with
  | none => [node]
  | some (field, items) => items.map fun item => Keyed.insert field item node

def noteIdOf (value : Json) : Except Fault NoteId :=
  match value.int32? with
  | some id => .ok id
  | none => .error ((Fault.of .noteIdNotInteger).within value.compact)

/-- The notes that a declaration fans out to, or none if it stays one declaration. -/
def noteIds? (chart : Chart) (value : Option Json) : Except Fault (Option (List NoteId)) :=
  match value with
  | none | some .null => .ok none
  | some (.int n) => (noteIdOf (.int n)).map fun _ => none
  | some (.real x) => (noteIdOf (.real x)).map fun _ => none
  | some (.arr items) => (items.mapM noteIdOf).map some
  | some (.obj spec) => (Selector.ofFields spec).map fun selector => some (selector.ids chart)
  | some value => .error ((Fault.of .badNote).within value.compact)

def notes (chart : Chart) (node : Node) : Except Fault (List Node) :=
  (noteIds? chart (Keyed.get? node "note")).map fun ids? =>
    match ids? with
    | none => [node]
    | some ids => ids.map fun id => Keyed.insert "note" (.int id.toInt) node

end Fanout

/-- The declarations that one declaration stands for. -/
def fanOut (chart : Chart) (node : Node) : Except Fault (List Node) :=
  ((Fanout.times node).mapM (Fanout.notes chart)).map List.flatten

/-- The note that a single declaration carries. -/
def ownNote (node : Node) : Option NoteId :=
  (Keyed.get? node "note").bind Json.int32?

end Storyboard
