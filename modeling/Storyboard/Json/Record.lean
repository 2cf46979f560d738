import Storyboard.Json.Mismatch

/-!
# Typed readers

Readers for the scalar types, for lists, and for records of named columns. A record is written as
an object, or as an array of its columns in order. Fields are read in the order in which they
stand; a column that is not given takes its default, or is reported as missing, in the order of
the columns.
-/
namespace Storyboard.Json

abbrev Reader (α : Type) := Draft → Except Mismatch α

namespace Reader

def real : Reader Finite64 := fun draft =>
  match draft with
  | .scalar value => match value.real? with
    | some x => .ok x
    | none => .error (.ofDraft draft "f64")
  | _ => .error (.ofDraft draft "f64")

def int32 : Reader Int32 := fun draft =>
  match draft with
  | .scalar (.int n) => match (Json.int n).int32? with
    | some n => .ok n
    | none => .error (.wrongValue (.int n) "i32")
  | _ => .error (.ofDraft draft "i32")

def text : Reader String := fun draft =>
  match draft with
  | .scalar (.str s) => .ok s
  | _ => .error (.ofDraft draft "a string")

def flag : Reader Bool := fun draft =>
  match draft with
  | .scalar (.bool b) => .ok b
  | _ => .error (.ofDraft draft "a boolean")

/-- A null stands for a value that is not given. -/
def optional {α : Type} (reader : Reader α) : Reader (Option α) := fun draft =>
  match draft with
  | .scalar .null => .ok none
  | _ => (reader draft).map some

def list {α : Type} (reader : Reader α) : Reader (List α) := fun draft =>
  match draft with
  | .arr items closed => do
    let values ← items.mapM reader
    if closed then .ok values else .error .notJson
  | _ => .error (.ofDraft draft "a sequence")

end Reader

/-- One column of a record: its name, its reader, and the value it has when it is not given. -/
structure Column where
  name : String
  Value : Type
  read : Reader Value
  default? : Option Value

/-- The values read so far. -/
def Cells : List Column → Type
  | [] => Unit
  | column :: rest => Option column.Value × Cells rest

/-- One value for each column. -/
def Record : List Column → Type
  | [] => Unit
  | column :: rest => column.Value × Record rest

def Cells.empty : (columns : List Column) → Cells columns
  | [] => ()
  | _ :: rest => (none, empty rest)

/-- Reads a field into its cell. A field that is no column is skipped, but its text must be whole.
-/
def Cells.put (key : String) (draft : Draft) :
    (columns : List Column) → Cells columns → Except Mismatch (Cells columns)
  | [], () => if draft.isWhole then .ok () else .error .notJson
  | column :: rest, (cell, cells) =>
    if column.name = key then
      match cell with
      | some _ => .error (.duplicateField key)
      | none => (column.read draft).map fun value => (some value, cells)
    else (put key draft rest cells).map fun cells => (cell, cells)

def Cells.putAll (columns : List Column) :
    List (Option String × Draft) → Cells columns → Except Mismatch (Cells columns)
  | [], cells => .ok cells
  | (none, _) :: _, _ => .error .notJson
  | (some key, draft) :: rest, cells => do
    let cells ← put key draft columns cells
    putAll columns rest cells

/-- The record, with defaults for the empty cells. -/
def Cells.finish : (columns : List Column) → Cells columns → Except Mismatch (Record columns)
  | [], () => .ok ()
  | column :: rest, (cell, cells) =>
    match cell.or column.default? with
    | none => .error (.missingField column.name)
    | some value => (finish rest cells).map fun values => (value, values)

/-- Reads the items of an array into the columns in order. -/
def Record.ofItems (name : String) (size total : Nat) (closed : Bool) :
    (columns : List Column) → Nat → List Draft → Except Mismatch (Record columns)
  | [], _, [] => if closed then .ok () else .error .notJson
  | [], _, _ :: _ => if closed then .error (.tooMany total) else .error .notJson
  | column :: rest, index, [] =>
    if !closed then .error .notJson
    else match column.default? with
      | none => .error (.tooFew index name size)
      | some value => (ofItems name size total closed rest (index + 1) []).map fun values =>
        (value, values)
  | column :: rest, index, item :: items => do
    let value ← column.read item
    let values ← ofItems name size total closed rest (index + 1) items
    return (value, values)

/-- Reads a record of the given name. -/
def Record.read (name : String) (columns : List Column) : Reader (Record columns) := fun draft =>
  match draft with
  | .obj fields closed => do
    let cells ← Cells.putAll columns fields (Cells.empty columns)
    if closed then Cells.finish columns cells else .error .notJson
  | .arr items closed => ofItems name columns.length items.length closed columns 0 items
  | _ => .error (.ofDraft draft name)

end Storyboard.Json
