import Storyboard.Json.Draft
import Storyboard.Number.Shortest
import Storyboard.Text.Quoted

/-!
# Values of the wrong shape

What a typed reader reports when a value is not what it expects: what was found and what was
expected, a field that is missing or given twice, or an array whose length does not fit the record
it stands for.
-/
namespace Storyboard.Json

/-- A value as it is named in a report. -/
inductive Found where
  | null
  | bool (b : Bool)
  | int (n : Int)
  | real (x : Finite64)
  | text (s : String)
  | sequence
  | map
deriving DecidableEq

/-- What a value is named as; a draft that is not whole has no name. -/
def Found.ofDraft? : Draft → Option Found
  | .scalar .null => some .null
  | .scalar (.bool b) => some (.bool b)
  | .scalar (.int n) => some (.int n)
  | .scalar (.real x) => some (.real x)
  | .scalar (.str s) => some (.text s)
  | .scalar (.arr _) | .arr _ _ => some .sequence
  | .scalar (.obj _) | .obj _ _ => some .map
  | .unreadable | .broken => none

def Found.describe : Found → String
  | .null => "null"
  | .bool b => s!"boolean `{b}`"
  | .int n => s!"integer `{n}`"
  | .real x => "floating point `" ++ x.render ++ "`"
  | .text s => "string " ++ Text.quoted s
  | .sequence => "sequence"
  | .map => "map"

/-- A value is of the wrong shape. -/
inductive Mismatch where
  /-- The text stops being JSON before the value is read. -/
  | notJson
  | wrongType (found : Found) (expected : String)
  /-- The type is right but the value is out of range. -/
  | wrongValue (found : Found) (expected : String)
  | missingField (name : String)
  | duplicateField (name : String)
  /-- An array ends before a field that a record of the given size must have. -/
  | tooFew (count : Nat) (record : String) (size : Nat)
  /-- An array has more items than the record it stands for. -/
  | tooMany (count : Nat)
deriving DecidableEq

def Mismatch.message : Mismatch → String
  | .notJson => ""
  | .wrongType found expected => s!"invalid type: {found.describe}, expected {expected}"
  | .wrongValue found expected => s!"invalid value: {found.describe}, expected {expected}"
  | .missingField name => s!"missing field `{name}`"
  | .duplicateField name => s!"duplicate field `{name}`"
  | .tooFew count record size =>
    let elements := if size = 1 then "element" else "elements"
    s!"invalid length {count}, expected {record} with {size} {elements}"
  | .tooMany count => s!"invalid length {count}, expected fewer elements in array"

/-- The report on a draft that is not what was expected. -/
def Mismatch.ofDraft (draft : Draft) (expected : String) : Mismatch :=
  match Found.ofDraft? draft with
  | some found => .wrongType found expected
  | none => .notJson

end Storyboard.Json
