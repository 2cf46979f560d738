import Storyboard.Number.Binary64
import Storyboard.Number.Rounding
import Storyboard.Keyed

/-!
# JSON values

Documents, charts and compiled boards are JSON values. A number is an integer or a finite binary64
number: a text without a point and an exponent that fits 64 bits is an integer, every other number
is rounded. The fields of an object are in increasing order of their keys.
-/
namespace Storyboard

inductive Json where
  | null
  | bool (b : Bool)
  | int (n : Int)
  | real (x : Finite64)
  | str (s : String)
  | arr (items : List Json)
  | obj (fields : List (String × Json))

namespace Json

mutual

/-- Equality of values is decided by walking both. -/
def decideEq : (left right : Json) → Decidable (left = right)
  | .null, .null => isTrue rfl
  | .bool a, .bool b => if h : a = b then isTrue (h ▸ rfl) else isFalse (by simp [h])
  | .int a, .int b => if h : a = b then isTrue (h ▸ rfl) else isFalse (by simp [h])
  | .real a, .real b => if h : a = b then isTrue (h ▸ rfl) else isFalse (by simp [h])
  | .str a, .str b => if h : a = b then isTrue (h ▸ rfl) else isFalse (by simp [h])
  | .arr a, .arr b =>
    match decideEqItems a b with
    | isTrue h => isTrue (h ▸ rfl)
    | isFalse h => isFalse (by simp [h])
  | .obj a, .obj b =>
    match decideEqFields a b with
    | isTrue h => isTrue (h ▸ rfl)
    | isFalse h => isFalse (by simp [h])
  | .null, .bool _ | .null, .int _ | .null, .real _ | .null, .str _ | .null, .arr _
  | .null, .obj _ | .bool _, .null | .bool _, .int _ | .bool _, .real _ | .bool _, .str _
  | .bool _, .arr _ | .bool _, .obj _ | .int _, .null | .int _, .bool _ | .int _, .real _
  | .int _, .str _ | .int _, .arr _ | .int _, .obj _ | .real _, .null | .real _, .bool _
  | .real _, .int _ | .real _, .str _ | .real _, .arr _ | .real _, .obj _ | .str _, .null
  | .str _, .bool _ | .str _, .int _ | .str _, .real _ | .str _, .arr _ | .str _, .obj _
  | .arr _, .null | .arr _, .bool _ | .arr _, .int _ | .arr _, .real _ | .arr _, .str _
  | .arr _, .obj _ | .obj _, .null | .obj _, .bool _ | .obj _, .int _ | .obj _, .real _
  | .obj _, .str _ | .obj _, .arr _ => isFalse (by simp)

def decideEqItems : (left right : List Json) → Decidable (left = right)
  | [], [] => isTrue rfl
  | [], _ :: _ | _ :: _, [] => isFalse (by simp)
  | x :: xs, y :: ys =>
    match decideEq x y, decideEqItems xs ys with
    | isTrue h, isTrue h' => isTrue (by rw [h, h'])
    | isFalse h, _ | _, isFalse h => isFalse (by simp [h])

def decideEqFields : (left right : List (String × Json)) → Decidable (left = right)
  | [], [] => isTrue rfl
  | [], _ :: _ | _ :: _, [] => isFalse (by simp)
  | x :: xs, y :: ys =>
    if key : x.1 = y.1 then
      match decideEq x.2 y.2, decideEqFields xs ys with
      | isTrue h, isTrue h' => isTrue (by rw [h', show x = y from Prod.ext key h])
      | isFalse h, _ => isFalse fun same => h (congrArg Prod.snd (List.cons.inj same).1)
      | _, isFalse h => isFalse fun same => h (List.cons.inj same).2
    else isFalse fun same => key (congrArg Prod.fst (List.cons.inj same).1)

end

instance : DecidableEq Json := decideEq

instance : Inhabited Json := ⟨.null⟩

mutual

/-- How many arrays and objects are nested at most. -/
def depth : Json → Nat
  | .arr items => 1 + depthOfItems items
  | .obj fields => 1 + depthOfFields fields
  | _ => 0

def depthOfItems : List Json → Nat
  | [] => 0
  | item :: rest => max (depth item) (depthOfItems rest)

def depthOfFields : List (String × Json) → Nat
  | [] => 0
  | field :: rest => max (depth field.2) (depthOfFields rest)

end

mutual

/-- Whether a null occurs anywhere in the value. -/
def hasNull : Json → Bool
  | .null => true
  | .arr items => itemsHaveNull items
  | .obj fields => fieldsHaveNull fields
  | _ => false

def itemsHaveNull : List Json → Bool
  | [] => false
  | item :: rest => hasNull item || itemsHaveNull rest

def fieldsHaveNull : List (String × Json) → Bool
  | [] => false
  | field :: rest => hasNull field.2 || fieldsHaveNull rest

end

theorem itemsHaveNull_eq_false {items : List Json}
    (clean : ∀ item ∈ items, hasNull item = false) : itemsHaveNull items = false := by
  induction items with
  | nil => rfl
  | cons item rest ih =>
    rw [itemsHaveNull, clean item (List.mem_cons_self ..), Bool.false_or]
    exact ih fun item member => clean item (List.mem_cons_of_mem _ member)

theorem fieldsHaveNull_eq_false {fields : List (String × Json)}
    (clean : ∀ field ∈ fields, hasNull field.2 = false) : fieldsHaveNull fields = false := by
  induction fields with
  | nil => rfl
  | cons field rest ih =>
    rw [fieldsHaveNull, clean field (List.mem_cons_self ..), Bool.false_or]
    exact ih fun field member => clean field (List.mem_cons_of_mem _ member)

/-- The object with the given fields, put in order. -/
def ofFields (fields : List (String × Json)) : Json := .obj (Keyed.ofList fields)

/-- What is written for something that may be missing: a null if it is. -/
def orNull {α : Type} (write : α → Json) : Option α → Json
  | none => .null
  | some x => write x

mutual

/-- The value without the fields that are null, at any depth. A null in an array stays. -/
def stripped : Json → Json
  | .arr items => .arr (strippedItems items)
  | .obj fields => .obj (strippedFields fields)
  | value => value

def strippedItems : List Json → List Json
  | [] => []
  | item :: rest => stripped item :: strippedItems rest

def strippedFields : List (String × Json) → List (String × Json)
  | [] => []
  | field :: rest =>
    if field.2 = .null then strippedFields rest
    else (field.1, stripped field.2) :: strippedFields rest

end

/-- The integer from a signed 64-bit range; larger integers and all other values are none. -/
def int64? : Json → Option Int
  | .int n => if -0x8000000000000000 ≤ n ∧ n < 0x8000000000000000 then some n else none
  | _ => none

/-- The integer from a signed 32-bit range. -/
def int32? : Json → Option Int32
  | .int n => if -0x80000000 ≤ n ∧ n < 0x80000000 then some (Int32.ofInt n) else none
  | _ => none

theorem int32?_toInt (n : Int32) : (Json.int n.toInt).int32? = some n := by
  rw [int32?, if_pos ⟨Int32.le_toInt n, Int32.toInt_lt n⟩, Int32.ofInt_toInt]

theorem int32?_eq_some_iff {value : Json} {n : Int32} :
    value.int32? = some n ↔ value = .int n.toInt := by
  constructor
  · intro read
    unfold int32? at read
    split at read
    · obtain ⟨⟨low, high⟩, same⟩ := Option.ite_none_right_eq_some.1 read
      cases same
      rw [Int32.toInt_ofInt_of_le low high]
    · cases read
  · rintro rfl
    exact int32?_toInt n

/-- The number nearest to a numeric value. -/
def real? : Json → Option Finite64
  | .int n => Finite64.ofBinary? (Binary64.ofInt n)
  | .real x => some x
  | _ => none

def bool? : Json → Option Bool
  | .bool b => some b
  | _ => none

def string? : Json → Option String
  | .str s => some s
  | _ => none

end Json

/-- The fields of one declaration. -/
abbrev Node := Keyed Json

/-- A field of a declaration that is neither absent nor null. -/
def Node.given? (node : Node) (key : String) : Option Json :=
  match Keyed.get? node key with
  | some .null | none => none
  | some value => some value

end Storyboard
