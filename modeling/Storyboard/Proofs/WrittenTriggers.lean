import Mathlib.Data.Set.List
import Storyboard.Proofs.Result
import Storyboard.Trigger.Basic

/-!
# How triggers are written

The grammar of triggers, apart from the reader: what may stand in each of the seven entries and what
it means. A trigger is read exactly if every entry is left out or has a meaning, and its fields are
then these meanings. Otherwise the first entry in the order of reading that has a value without a
meaning decides the fault.

Main statement: `Trigger.ofJson_grammar`.
-/
namespace Storyboard

/-! ## Values -/

namespace Json

/-- An integer of 64 bits. -/
def FitsInt64 (n : Int) : Prop := -0x8000000000000000 ≤ n ∧ n < 0x8000000000000000

theorem int64?_eq_some_iff {value : Json} {n : Int} :
    value.int64? = some n ↔ value = .int n ∧ FitsInt64 n := by
  unfold int64? FitsInt64
  split
  · next m =>
    rw [Option.ite_none_right_eq_some, Json.int.injEq, Option.some.injEq]
    constructor
    · rintro ⟨fits, rfl⟩
      exact ⟨rfl, fits⟩
    · rintro ⟨rfl, fits⟩
      exact ⟨fits, rfl⟩
  · next other => exact iff_of_false nofun fun same => other n same.1

theorem string?_eq_some_iff {value : Json} {text : String} :
    value.string? = some text ↔ value = .str text := by
  cases value <;> simp [string?]

end Json

namespace TriggerKind

/-- The word for a kind. -/
def word : TriggerKind → String
  | none => "none"
  | noteClear => "noteclear"
  | combo => "combo"
  | score => "score"

/-- A kind is spelt by its word in any case. -/
def SpeltBy (kind : TriggerKind) (text : String) : Prop :=
  text.toList.map Char.toLower = kind.word.toList

theorem lower_eq_iff {text : String} {kind : TriggerKind} :
    Text.lower text = kind.word ↔ kind.SpeltBy text := by
  rw [SpeltBy, Text.lower, ← String.toList_inj, String.toList_ofList]

theorem ofText?_eq_some_iff {text : String} {kind : TriggerKind} :
    ofText? text = some kind ↔ kind.SpeltBy text := by
  rw [← lower_eq_iff, ofText?]
  constructor
  · intro read
    split at read
    · next spelt => cases read; exact spelt
    · split at read
      · next spelt => cases read; exact spelt
      · split at read
        · next spelt => cases read; exact spelt
        · split at read
          · next spelt => cases read; exact spelt
          · cases read
  · intro spelt
    rw [spelt]
    cases kind <;> rfl

end TriggerKind

namespace Trigger

/-! ## The grammar -/

/-- The entries of a written trigger, in the order in which they are read. -/
inductive Entry where
  | kind
  | uses
  | notes
  | spawn
  | destroy
  | combo
  | score
deriving DecidableEq

namespace Entry

def all : List Entry := [kind, uses, notes, spawn, destroy, combo, score]

def key : Entry → String
  | kind => "type"
  | uses => "uses"
  | notes => "notes"
  | spawn => "spawn"
  | destroy => "destroy"
  | combo => "combo"
  | score => "score"

/-- What an entry comes to. -/
def Meaning : Entry → Type
  | kind => TriggerKind
  | uses => Option Nat
  | notes => List NoteId
  | spawn | destroy => List String
  | combo | score => Int

/-- What an entry comes to where it is left out. -/
def default : (entry : Entry) → entry.Meaning
  | kind => TriggerKind.none
  | uses => none
  | notes => ([] : List NoteId)
  | spawn | destroy => ([] : List String)
  | combo | score => (0 : Int)

/-- The values that may stand in an entry. -/
def Allows : Entry → Json → Prop
  | kind, value => ∃ text, value = .str text ∧ ∃ result, TriggerKind.SpeltBy result text
  | uses, value | score, value => ∃ n, value = .int n ∧ Json.FitsInt64 n
  | combo, value => ∃ n : Int32, value = .int n.toInt
  | notes, value =>
    ∃ items, value = .arr items ∧ ∀ item ∈ items, ∃ id : NoteId, .int id.toInt = item
  | spawn, value | destroy, value =>
    ∃ items, value = .arr items ∧ ∀ item ∈ items, ∃ text, Json.str text = item

/-- The values of an entry and what they mean. -/
def Means : (entry : Entry) → Json → entry.Meaning → Prop
  | kind, value, result => ∃ text, value = .str text ∧ TriggerKind.SpeltBy result text
  | uses, value, limit => ∃ n, value = .int n ∧ Json.FitsInt64 n ∧
      ∀ count : Nat, limit = some count ↔ (count : Int) = n ∧ 1 ≤ count ∧ count ≤ 0xffffffff
  | notes, value, ids => value = .arr (ids.map fun id : NoteId => .int id.toInt)
  | spawn, value, ids | destroy, value, ids => value = .arr (ids.map Json.str)
  | combo, value, n => ∃ short : Int32, value = .int short.toInt ∧ n = short.toInt
  | score, value, n => value = .int n ∧ Json.FitsInt64 n

/-- What an entry of a node comes to: its default if it is absent or null, and otherwise what its
value means. -/
def Gives (node : Node) (entry : Entry) (result : entry.Meaning) : Prop :=
  match node.given? entry.key with
  | none => result = entry.default
  | some value => entry.Means value result

/-- An entry of a node is left out or has a value that may stand there. -/
def IsSound (node : Node) (entry : Entry) : Prop :=
  ∀ value, node.given? entry.key = some value → entry.Allows value

/-- What is wrong with a value that may not stand in an entry. -/
def cause (entry : Entry) (value : Json) : Fault.Cause :=
  match entry, value with
  | .kind, .str text => .unknownTriggerType (Text.lower text)
  | .kind, _ => .triggerTypeNotString
  | .uses, _ | .combo, _ | .score, _ => .triggerNotInteger entry.key
  | .notes, .arr _ | .spawn, .arr _ | .destroy, .arr _ => .triggerBadEntry entry.key
  | .notes, _ | .spawn, _ | .destroy, _ => .triggerNotArray entry.key

def code : Entry → String
  | kind => "E5001"
  | uses | notes | spawn | destroy | combo | score => "E5002"

theorem code_cause (entry : Entry) (value : Json) : (entry.cause value).code = entry.code := by
  cases entry <;> cases value <;> rfl

/-- An entry of a node fails with the fault of its value. -/
def Fails (node : Node) (fault : Fault) (entry : Entry) : Prop :=
  ∃ value, node.given? entry.key = some value ∧ ¬ entry.Allows value ∧
    fault = .of (entry.cause value)

end Entry

/-- What a trigger has for an entry. -/
def has (trigger : Trigger) : (entry : Entry) → entry.Meaning
  | .kind => trigger.kind
  | .uses => trigger.uses
  | .notes => trigger.notes
  | .spawn => trigger.spawn
  | .destroy => trigger.destroy
  | .combo => trigger.combo
  | .score => trigger.score

/-- A trigger is written in a node: each field is what its entry comes to, and it has not fired. -/
structure WrittenIn (node : Node) (trigger : Trigger) : Prop where
  entries : ∀ entry, Entry.Gives node entry (trigger.has entry)
  unused : trigger.currentUses = 0
  quiet : trigger.triggerer = none

/-! ## Reading entries -/

section

variable {α : Type} {node : Node} {key : String} {default : α} {read : Json → Option α}
variable {means : Json → α → Prop} {write : α → Json} {fault : Fault}

theorem integerIn_eq_ok_iff (exact : ∀ value a, read value = some a ↔ means value a) {a : α} :
    integerIn node key default read = .ok a ↔
      match node.given? key with
      | none => a = default
      | some value => means value a := by
  unfold integerIn
  cases node.given? key with
  | none => simp [eq_comm]
  | some value =>
    dsimp only
    rw [← exact]
    cases read value <;> simp

theorem cause_of_integerIn (failed : integerIn node key default read = .error fault) :
    ∃ value, node.given? key = some value ∧ fault = .of (.triggerNotInteger key) := by
  unfold integerIn at failed
  split at failed
  · cases failed
  · next value given =>
    split at failed
    · cases failed
    · cases failed
      exact ⟨value, given, rfl⟩

theorem listIn_eq_ok_iff (exact : ∀ value a, read value = some a ↔ value = write a) {as : List α} :
    listIn node key read = .ok as ↔
      match node.given? key with
      | none => as = []
      | some value => value = .arr (as.map write) := by
  unfold listIn
  cases node.given? key with
  | none => simp [eq_comm]
  | some value =>
    cases value with
    | arr items =>
      dsimp only
      rw [Json.arr.injEq]
      refine Result.mapM_eq_ok_iff_eq_map fun item a => ?_
      rw [← exact]
      cases read item <;> simp
    | _ => simp

theorem cause_of_listIn (failed : listIn node key read = .error fault) :
    (∃ items, node.given? key = some (.arr items) ∧ fault = .of (.triggerBadEntry key)) ∨
      ∃ value, node.given? key = some value ∧ (∀ items, value ≠ .arr items) ∧
        fault = .of (.triggerNotArray key) := by
  unfold listIn at failed
  split at failed
  · cases failed
  · next items given =>
    -- whatever item fails, it does so with the same fault
    obtain ⟨_, item, _, _, _, wrong⟩ := Result.mapM_eq_error_iff.1 failed
    split at wrong
    · cases wrong
    · cases wrong
      exact .inl ⟨items, given, rfl⟩
  · next value single given =>
    cases failed
    exact .inr ⟨value, given, single, rfl⟩

end

theorem kindIn_eq_ok_iff {node : Node} {kind : TriggerKind} : kindIn node = .ok kind ↔
    match node.given? "type" with
    | none => kind = .none
    | some value => ∃ text, value = .str text ∧ kind.SpeltBy text := by
  unfold kindIn
  cases node.given? "type" with
  | none => simp [eq_comm]
  | some value =>
    cases value with
    | str text =>
      simp only [Json.str.injEq, exists_eq_left', ← TriggerKind.ofText?_eq_some_iff,
        TriggerKind.ofText]
      cases TriggerKind.ofText? text <;> simp
    | _ => simp

theorem cause_of_kindIn {node : Node} {fault : Fault} (failed : kindIn node = .error fault) :
    ∃ value, node.given? "type" = some value ∧ fault = .of (Entry.kind.cause value) := by
  unfold kindIn at failed
  split at failed
  · cases failed
  · next text given =>
    unfold TriggerKind.ofText at failed
    split at failed
    · cases failed
    · cases failed
      exact ⟨_, given, rfl⟩
  · next value other given =>
    cases failed
    refine ⟨value, given, ?_⟩
    cases value with
    | str text => exact absurd rfl (other text)
    | _ => rfl

theorem limitOf_eq_iff {n : Int} {limit : Option Nat} : limitOf n = limit ↔
    ∀ count : Nat, limit = some count ↔ (count : Int) = n ∧ 1 ≤ count ∧ count ≤ 0xffffffff := by
  have counts (count : Nat) : limitOf n = some count ↔
      (count : Int) = n ∧ 1 ≤ count ∧ count ≤ 0xffffffff := by
    rw [limitOf, Option.ite_none_right_eq_some, Option.some.injEq]
    omega
  simp only [← counts]
  constructor
  · rintro rfl count
    exact Iff.rfl
  · exact fun same => (Option.ext same).symm

namespace Entry

variable {node : Node} {entry : Entry} {fault : Fault} {value : Json}

/-- The values that may stand in an entry are those with a meaning. -/
theorem allows_iff_exists_means : entry.Allows value ↔ ∃ result, entry.Means value result := by
  have written {α : Type} (write : α → Json) :
      (∃ items, value = .arr items ∧ ∀ item ∈ items, ∃ a, write a = item) ↔
        ∃ as : List α, value = .arr (as.map write) := by
    have lists (items : List Json) :
        (∀ item ∈ items, ∃ a, write a = item) ↔ ∃ as : List α, as.map write = items :=
      (Set.ext_iff.1 (Set.range_list_map write) items).symm
    simp only [lists]
    constructor
    · rintro ⟨_, same, as, rfl⟩
      exact ⟨as, same⟩
    · rintro ⟨as, same⟩
      exact ⟨_, same, as, rfl⟩
  cases entry with
  | kind => exact ⟨fun ⟨text, same, result, spelt⟩ => ⟨result, text, same, spelt⟩,
      fun ⟨result, text, same, spelt⟩ => ⟨text, same, result, spelt⟩⟩
  | uses =>
    constructor
    · rintro ⟨n, same, fits⟩
      exact ⟨limitOf n, n, same, fits, limitOf_eq_iff.1 rfl⟩
    · rintro ⟨limit, n, same, fits, _⟩
      exact ⟨n, same, fits⟩
  | notes => exact written _
  | spawn => exact written _
  | destroy => exact written _
  | combo => exact ⟨fun ⟨n, same⟩ => ⟨n.toInt, n, same, rfl⟩, fun ⟨_, n, same, _⟩ => ⟨n, same⟩⟩
  | score => exact Iff.rfl

theorem uses_means_iff {limit : Option Nat} :
    value.int64?.map limitOf = some limit ↔ uses.Means value limit := by
  simp only [Option.map_eq_some_iff, Json.int64?_eq_some_iff, limitOf_eq_iff, and_assoc]
  exact Iff.rfl

theorem combo_means_iff {n : Int} :
    value.int32?.map Int32.toInt = some n ↔ combo.Means value n := by
  simp only [Option.map_eq_some_iff, Json.int32?_eq_some_iff]
  exact exists_congr fun short => and_congr_right fun _ => eq_comm

/-- The reader of an entry. -/
def read (node : Node) : (entry : Entry) → Except Fault entry.Meaning
  | kind => kindIn node
  | uses => integerIn node "uses" none fun value => value.int64?.map limitOf
  | notes => listIn node "notes" Json.int32?
  | spawn => listIn node "spawn" Json.string?
  | destroy => listIn node "destroy" Json.string?
  | combo => integerIn node "combo" (0 : Int) fun value => value.int32?.map Int32.toInt
  | score => integerIn node "score" (0 : Int) Json.int64?

/-- **Entries**: what is read is what the entry comes to. -/
theorem read_eq_ok_iff {result : entry.Meaning} :
    entry.read node = .ok result ↔ entry.Gives node result := by
  cases entry with
  | kind => exact kindIn_eq_ok_iff
  | uses => exact integerIn_eq_ok_iff fun value limit => uses_means_iff
  | notes => exact listIn_eq_ok_iff fun value id => Json.int32?_eq_some_iff
  | spawn => exact listIn_eq_ok_iff fun value text => Json.string?_eq_some_iff
  | destroy => exact listIn_eq_ok_iff fun value text => Json.string?_eq_some_iff
  | combo => exact integerIn_eq_ok_iff fun value n => combo_means_iff
  | score => exact integerIn_eq_ok_iff fun value n => Json.int64?_eq_some_iff

theorem cause_of_read (failed : entry.read node = .error fault) :
    ∃ value, node.given? entry.key = some value ∧ fault = .of (entry.cause value) := by
  cases entry with
  | kind => exact cause_of_kindIn failed
  | uses | combo | score => exact cause_of_integerIn failed
  | notes | spawn | destroy =>
    rcases cause_of_listIn failed with ⟨items, given, same⟩ | ⟨value, given, single, same⟩
    · exact ⟨.arr items, given, same⟩
    · refine ⟨value, given, ?_⟩
      cases value with
      | arr items => exact absurd rfl (single items)
      | _ => exact same

theorem exists_read_iff : (∃ result, entry.read node = .ok result) ↔ entry.IsSound node := by
  simp only [read_eq_ok_iff, Gives, IsSound, allows_iff_exists_means]
  cases node.given? entry.key with
  | none => simp
  | some value => simp

/-- An entry that cannot be read fails with the fault of its value. -/
theorem read_eq_error_iff : entry.read node = .error fault ↔ entry.Fails node fault := by
  constructor
  · intro failed
    obtain ⟨value, given, same⟩ := cause_of_read failed
    refine ⟨value, given, fun allowed => ?_, same⟩
    obtain ⟨result, meant⟩ := allows_iff_exists_means.1 allowed
    have done : entry.read node = .ok result := by
      rw [read_eq_ok_iff, Gives, given]
      exact meant
    rw [done] at failed
    cases failed
  · rintro ⟨value, given, banned, rfl⟩
    cases outcome : entry.read node with
    | ok result =>
      rw [read_eq_ok_iff, Gives, given] at outcome
      exact absurd (allows_iff_exists_means.2 ⟨result, outcome⟩) banned
    | error other =>
      obtain ⟨same, found, rfl⟩ := cause_of_read outcome
      rw [given] at found
      cases found
      rfl

/-- The first of some entries that is not sound fails with a fault. -/
def FirstFails (node : Node) (fault : Fault) (entries : List Entry) : Prop :=
  Result.FirstBad (IsSound node) (Fails node fault) entries

theorem FirstFails.code {entries : List Entry} (fails : FirstFails node fault entries) :
    ∃ before entry after, entries = before ++ entry :: after ∧
      (∀ earlier ∈ before, IsSound node earlier) ∧ ¬ IsSound node entry ∧
      fault.cause.code = entry.code := by
  obtain ⟨before, entry, after, split, sound, value, given, banned, rfl⟩ := fails
  exact ⟨before, entry, after, split, sound, fun allowed => banned (allowed value given),
    code_cause entry value⟩

/-- **Step**: reading an entry and going on fails if the entry does, or if it is sound and the rest
fails. -/
theorem read_bind_eq_error_iff (entry : Entry) {next : entry.Meaning → Except Fault Trigger}
    {rest : List Entry}
    (later : ∀ result, next result = .error fault ↔ FirstFails node fault rest) :
    entry.read node >>= next = .error fault ↔ FirstFails node fault (entry :: rest) := by
  rw [Result.bind_eq_error_iff, read_eq_error_iff, FirstFails, Result.firstBad_cons,
    ← exists_read_iff]
  simp only [later, exists_and_right, FirstFails]

end Entry

/-! ## Reading triggers -/

variable {node : Node} {trigger : Trigger} {fault : Fault}

theorem ofNode_eq_ok_iff : ofNode node = .ok trigger ↔ trigger.WrittenIn node := by
  constructor
  · intro done
    obtain ⟨kind, first, done⟩ := Result.bind_eq_ok_iff.1 done
    obtain ⟨uses, second, done⟩ := Result.bind_eq_ok_iff.1 done
    obtain ⟨notes, third, done⟩ := Result.bind_eq_ok_iff.1 done
    obtain ⟨spawn, fourth, done⟩ := Result.bind_eq_ok_iff.1 done
    obtain ⟨destroy, fifth, done⟩ := Result.bind_eq_ok_iff.1 done
    obtain ⟨combo, sixth, done⟩ := Result.bind_eq_ok_iff.1 done
    obtain ⟨score, seventh, done⟩ := Result.bind_eq_ok_iff.1 done
    cases done
    refine ⟨fun entry => Entry.read_eq_ok_iff.1 ?_, rfl, rfl⟩
    cases entry <;> assumption
  · rintro ⟨entries, unused, quiet⟩
    have read (entry : Entry) : entry.read node = .ok (trigger.has entry) :=
      Entry.read_eq_ok_iff.2 (entries entry)
    refine Result.bind_eq_ok_iff.2 ⟨_, read .kind, ?_⟩
    refine Result.bind_eq_ok_iff.2 ⟨_, read .uses, ?_⟩
    refine Result.bind_eq_ok_iff.2 ⟨_, read .notes, ?_⟩
    refine Result.bind_eq_ok_iff.2 ⟨_, read .spawn, ?_⟩
    refine Result.bind_eq_ok_iff.2 ⟨_, read .destroy, ?_⟩
    refine Result.bind_eq_ok_iff.2 ⟨_, read .combo, ?_⟩
    refine Result.bind_eq_ok_iff.2 ⟨_, read .score, ?_⟩
    cases trigger
    cases unused
    cases quiet
    rfl

theorem ofNode_eq_error_iff :
    ofNode node = .error fault ↔ Entry.FirstFails node fault Entry.all := by
  refine Entry.read_bind_eq_error_iff .kind fun kind => ?_
  refine Entry.read_bind_eq_error_iff .uses fun uses => ?_
  refine Entry.read_bind_eq_error_iff .notes fun notes => ?_
  refine Entry.read_bind_eq_error_iff .spawn fun spawn => ?_
  refine Entry.read_bind_eq_error_iff .destroy fun destroy => ?_
  refine Entry.read_bind_eq_error_iff .combo fun combo => ?_
  refine Entry.read_bind_eq_error_iff .score fun score => ?_
  exact iff_of_false nofun Result.not_firstBad_nil

theorem exists_ofNode_iff :
    (∃ trigger, ofNode node = .ok trigger) ↔ ∀ entry, Entry.IsSound node entry := by
  constructor
  · rintro ⟨trigger, done⟩ entry
    exact Entry.exists_read_iff.1
      ⟨_, Entry.read_eq_ok_iff.2 ((ofNode_eq_ok_iff.1 done).entries entry)⟩
  · intro sound
    cases outcome : ofNode node with
    | ok trigger => exact ⟨trigger, rfl⟩
    | error fault =>
      obtain ⟨_, entry, _, _, _, value, given, banned, _⟩ := ofNode_eq_error_iff.1 outcome
      exact absurd (sound entry value given) banned

variable {value : Json}

theorem ofJson_eq_ok_iff :
    ofJson value = .ok trigger ↔ ∃ node, value = .obj node ∧ trigger.WrittenIn node := by
  cases value with
  | obj node => simpa [ofJson] using ofNode_eq_ok_iff
  | _ => simp [ofJson]

theorem exists_ofJson_iff : (∃ trigger, ofJson value = .ok trigger) ↔
    ∃ node, value = .obj node ∧ ∀ entry, Entry.IsSound node entry := by
  cases value with
  | obj node => simpa [ofJson] using exists_ofNode_iff
  | _ => simp [ofJson]

theorem ofJson_eq_error_iff : ofJson value = .error fault ↔
    (∀ node, value ≠ .obj node) ∧ fault = .of .triggerNotObject ∨
      ∃ node, value = .obj node ∧ Entry.FirstFails node fault Entry.all := by
  cases value with
  | obj node => simpa [ofJson] using ofNode_eq_error_iff
  | _ => simp [ofJson, eq_comm]

/-- **The grammar of triggers.** A value is read as a trigger exactly if it is an object in which
every entry is left out or has a value that may stand there, and the fields of the trigger are then
what the entries come to. Anything else than an object is refused as such, and an object by the
fault of the first entry, in the order of reading, that has another value. -/
theorem ofJson_grammar (value : Json) :
    ((∃ trigger, ofJson value = .ok trigger) ↔
      ∃ node, value = .obj node ∧ ∀ entry, Entry.IsSound node entry) ∧
    (∀ trigger, ofJson value = .ok trigger ↔
      ∃ node, value = .obj node ∧ trigger.WrittenIn node) ∧
    (∀ fault, ofJson value = .error fault ↔
      (∀ node, value ≠ .obj node) ∧ fault = .of .triggerNotObject ∨
      ∃ node, value = .obj node ∧ Entry.FirstFails node fault Entry.all) ∧
    (∀ fault, ofJson value = .error fault →
      (∀ node, value ≠ .obj node) ∧ fault.cause.code = "E5002" ∨
      ∃ node before entry after, value = .obj node ∧ Entry.all = before ++ entry :: after ∧
        (∀ earlier ∈ before, Entry.IsSound node earlier) ∧ ¬ Entry.IsSound node entry ∧
        fault.cause.code = entry.code) := by
  refine ⟨exists_ofJson_iff, fun trigger => ofJson_eq_ok_iff, fun fault => ofJson_eq_error_iff,
    fun fault refused => ?_⟩
  rcases ofJson_eq_error_iff.1 refused with ⟨other, rfl⟩ | ⟨node, same, fails⟩
  · exact .inl ⟨other, rfl⟩
  · obtain ⟨before, entry, after, split, sound, unsound, code⟩ := fails.code
    exact .inr ⟨node, before, entry, after, same, split, sound, unsound, code⟩

/-! Neither a limit of no uses nor a kind in another case is a fault; of two faulty entries the list
counts, which is read before the score. -/

def mixedEntries : Node :=
  [("uses", .int 0), ("type", .str "NoteClear"), ("notes", .arr [.int 4, .int (-1)]),
    ("spawn", .null)]

def faultyEntries : Node := [("score", .str "1"), ("spawn", .arr [.str "a", .int 1])]

theorem ofJson_grammar_mixed :
    WrittenIn mixedEntries ⟨.noteClear, none, 0, [4, -1], [], [], 0, 0, none⟩ ∧
    Entry.FirstFails faultyEntries (.of (.triggerBadEntry "spawn")) Entry.all := by
  constructor
  · obtain ⟨node, same, written⟩ := ((ofJson_grammar (.obj mixedEntries)).2.1 _).1 rfl
    cases same
    exact written
  · obtain ⟨other, -⟩ | ⟨node, same, fails⟩ :=
      ((ofJson_grammar (.obj faultyEntries)).2.2.1 _).1 rfl
    · exact absurd rfl (other faultyEntries)
    · cases same
      exact fails

end Trigger
end Storyboard
