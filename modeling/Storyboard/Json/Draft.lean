import Storyboard.Json.Token

/-!
# Drafts: JSON text as far as it reads

A draft is the tree of a text up to the place where the text stops being JSON. Arrays and objects
record whether their closing bracket was reached, and a value that cannot be read is `broken`, so
a reader that walks a draft in order meets the problems of the text in the order of the text. The
draft of a JSON value is whole.
-/
namespace Storyboard.Json

inductive Draft where
  | scalar (value : Json)
  /-- A well-formed number or text that has no value. -/
  | unreadable
  /-- The place where the text stops being JSON. -/
  | broken
  | arr (items : List Draft) (closed : Bool)
  | obj (fields : List (Option String × Draft)) (closed : Bool)

instance : Inhabited Draft := ⟨.broken⟩

namespace Draft

mutual

/-- The value at the front of the tokens, and the tokens behind it; none are left behind a value
that is not whole. -/
def value : Nat → List Token → Draft × List Token
  | 0, _ | _, [] => (.broken, [])
  | fuel + 1, token :: rest =>
    match token with
    | .null => (.scalar .null, rest)
    | .bool b => (.scalar (.bool b), rest)
    | .number (some value) => (.scalar value, rest)
    | .text (some value) => (.scalar (.str value), rest)
    | .number none | .text none => (.unreadable, rest)
    | .openArr =>
      match rest with
      | .closeArr :: rest => (.arr [] true, rest)
      | rest =>
        let (items, closed, rest) := items fuel rest
        (.arr items closed, rest)
    | .openObj =>
      match rest with
      | .closeObj :: rest => (.obj [] true, rest)
      | rest =>
        let (fields, closed, rest) := fields fuel rest
        (.obj fields closed, rest)
    | .closeArr | .closeObj | .comma | .colon | .bad => (.broken, [])

/-- The items of an array from the first or from behind a comma. -/
def items : Nat → List Token → List Draft × Bool × List Token
  | 0, _ => ([], false, [])
  | fuel + 1, tokens =>
    match value fuel tokens with
    | (item, .comma :: rest) =>
      let (more, closed, rest) := items fuel rest
      (item :: more, closed, rest)
    | (item, .closeArr :: rest) => ([item], true, rest)
    | (item, _) => ([item], false, [])

/-- The fields of an object from the first or from behind a comma. -/
def fields : Nat → List Token → List (Option String × Draft) × Bool × List Token
  | fuel + 1, .text key :: .colon :: tokens =>
    match value fuel tokens with
    | (item, .comma :: rest) =>
      let (more, closed, rest) := fields fuel rest
      ((key, item) :: more, closed, rest)
    | (item, .closeObj :: rest) => ([(key, item)], true, rest)
    | (item, _) => ([(key, item)], false, [])
  | _ + 1, .text key :: _ => ([(key, .broken)], false, [])
  | _, _ => ([], false, [])

end

/-- The draft of a text, and whether nothing follows it. Two steps are spent on each token at
most. -/
def ofText (text : String) : Draft × Bool :=
  let tokens := Token.ofText text
  let (draft, rest) := value (2 * tokens.length + 2) tokens
  (draft, rest.isEmpty)

mutual

/-- The draft of a value. -/
def ofJson : Json → Draft
  | .arr items => .arr (ofItems items) true
  | .obj fields => .obj (ofFields fields) true
  | value => .scalar value

def ofItems : List Json → List Draft
  | [] => []
  | item :: rest => ofJson item :: ofItems rest

def ofFields : List (String × Json) → List (Option String × Draft)
  | [] => []
  | field :: rest => (some field.1, ofJson field.2) :: ofFields rest

end

theorem ofItems_eq_map (items : List Json) : ofItems items = items.map ofJson := by
  induction items with
  | nil => rfl
  | cons item rest ih => rw [ofItems, List.map_cons, ih]

mutual

/-- Whether the text of the draft was JSON to its end, whatever the values were. -/
def isWhole : Draft → Bool
  | .scalar _ | .unreadable => true
  | .broken => false
  | .arr items closed => itemsAreWhole items && closed
  | .obj fields closed => fieldsAreWhole fields && closed

def itemsAreWhole : List Draft → Bool
  | [] => true
  | item :: rest => isWhole item && itemsAreWhole rest

def fieldsAreWhole : List (Option String × Draft) → Bool
  | [] => true
  | field :: rest => isWhole field.2 && fieldsAreWhole rest

end

mutual

/-- The value of a whole draft that nests arrays and objects at most `levels` deep. Of several
fields under one key the last counts. -/
def toJson? (levels : Nat) : Draft → Option Json
  | .scalar value => some value
  | .unreadable | .broken => none
  | .arr items closed =>
    if levels = 0 || !closed then none
    else (itemsToJson? (levels - 1) items).map .arr
  | .obj fields closed =>
    if levels = 0 || !closed then none
    else (fieldsToJson? (levels - 1) fields).map fun entries =>
      .obj (entries.foldl (fun object entry => Keyed.insert entry.1 entry.2 object) [])

def itemsToJson? (levels : Nat) : List Draft → Option (List Json)
  | [] => some []
  | item :: rest => do
    let value ← toJson? levels item
    let values ← itemsToJson? levels rest
    return value :: values

def fieldsToJson? (levels : Nat) : List (Option String × Draft) → Option (List (String × Json))
  | [] => some []
  | field :: rest => do
    let key ← field.1
    let value ← toJson? levels field.2
    let values ← fieldsToJson? levels rest
    return (key, value) :: values

end

end Draft

/-- The nesting depth up to which documents are read. -/
def depthLimit : Nat := 127

/-- The value of a text: one JSON value, nested no deeper than the limit, with blanks around it. -/
def ofText? (text : String) : Option Json :=
  match Draft.ofText text with
  | (draft, true) => draft.toJson? depthLimit
  | (_, false) => none

end Storyboard.Json
