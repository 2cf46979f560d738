import Storyboard.Json.Record

/-!
# Attribute fields

A schema is a list of named fields, and a row gives each field of a schema a value or leaves it
out. Rows are read, written and overlaid field by field, so that whatever holds for one field
holds for every schema.
-/
namespace Storyboard

open Json

/-- A point of a line. -/
structure Point where
  x : Finite64
  y : Finite64
  z : Finite64
deriving DecidableEq

namespace Point

def columns : List Column :=
  [⟨"x", Finite64, Reader.real, none⟩,
   ⟨"y", Finite64, Reader.real, none⟩,
   ⟨"z", Finite64, Reader.real, some Finite64.zero⟩]

def ofRecord : Record columns → Point
  | (x, y, z, ()) => ⟨x, y, z⟩

def read : Reader Point := fun draft =>
  (Record.read "struct LinePosition" columns draft).map ofRecord

def toJson (p : Point) : Json := .obj [("x", .real p.x), ("y", .real p.y), ("z", .real p.z)]

end Point

/-- A value of an attribute, whatever its field. -/
inductive Attribute where
  | real (x : Finite64)
  | integer (n : Int32)
  | text (s : String)
  | flag (b : Bool)
  | points (ps : List Point)
deriving DecidableEq

def Attribute.toJson : Attribute → Json
  | real x => .real x
  | integer n => .int n.toInt
  | text s => .str s
  | flag b => .bool b
  | points ps => .arr (ps.map Point.toJson)

inductive FieldKind where
  | real
  | integer
  | text
  | flag
  | points
deriving DecidableEq, Repr

namespace FieldKind

def Value : FieldKind → Type
  | real => Finite64
  | integer => Int32
  | text => String
  | flag => Bool
  | points => List Point

instance : (kind : FieldKind) → DecidableEq kind.Value
  | real => inferInstanceAs (DecidableEq Finite64)
  | integer => inferInstanceAs (DecidableEq Int32)
  | text => inferInstanceAs (DecidableEq String)
  | flag => inferInstanceAs (DecidableEq Bool)
  | points => inferInstanceAs (DecidableEq (List Point))

def read : (kind : FieldKind) → Reader kind.Value
  | real => Reader.real
  | integer => Reader.int32
  | text => Reader.text
  | flag => Reader.flag
  | points => Reader.list Point.read

def toAttribute : (kind : FieldKind) → kind.Value → Attribute
  | real, x => .real x
  | integer, n => .integer n
  | text, s => .text s
  | flag, b => .flag b
  | points, ps => .points ps

end FieldKind

structure Field where
  name : String
  kind : FieldKind
deriving DecidableEq, Repr

/-- A value or nothing for each field. -/
def Row : List Field → Type
  | [] => Unit
  | field :: rest => Option field.kind.Value × Row rest

namespace Row

def decideEq : (fields : List Field) → DecidableEq (Row fields)
  | [] => inferInstanceAs (DecidableEq Unit)
  | _ :: rest =>
    have : DecidableEq (Row rest) := decideEq rest
    inferInstanceAs (DecidableEq (Option _ × Row rest))

instance {fields : List Field} : DecidableEq (Row fields) := decideEq fields

/-- The row that leaves everything out. -/
def blank : (fields : List Field) → Row fields
  | [] => ()
  | _ :: rest => (none, blank rest)

/-- Replaces the value of one field, given by its name, by that of an upper row if it has one. -/
def replace (name : String) : {fields : List Field} → Row fields → Row fields → Row fields
  | [], (), () => ()
  | field :: _, (lower, below), (upper, above) =>
    (if field.name = name then upper.or lower else lower, replace name below above)

/-- Lays one row over another: one after the other, the named fields are replaced by what the upper
row gives. A field that is not named keeps its lower value. -/
def overlay {fields : List Field} (names : List String) (lower upper : Row fields) : Row fields :=
  names.foldl (fun row name => row.replace name upper) lower

/-- Reads the fields in order; a null stands for a field that is left out. -/
def read (given : String → Option Draft) : (fields : List Field) → Except Mismatch (Row fields)
  | [] => .ok ()
  | field :: rest => do
    let value ← match given field.name with
      | none => .ok none
      | some draft => Reader.optional field.kind.read draft
    let values ← read given rest
    return (value, values)

/-- The fields as they are written, a null for each that is left out. -/
def toFields : {fields : List Field} → Row fields → List (String × Json)
  | [], () => []
  | field :: _, (value, row) =>
    (field.name, Json.orNull (fun v => (field.kind.toAttribute v).toJson) value) :: toFields row

/-- The values that are given, with the names of their fields, in order. -/
def entries : {fields : List Field} → Row fields → List (String × Attribute)
  | [], () => []
  | field :: _, (value, row) =>
    (value.map fun v => (field.name, field.kind.toAttribute v)).toList ++ entries row

end Row
end Storyboard
