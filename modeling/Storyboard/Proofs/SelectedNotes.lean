import Storyboard.Board.Declarations
import Storyboard.Proofs.Products
import Storyboard.Proofs.Walk
import Storyboard.Proofs.WrittenTimes

/-!
# Notes that a selector selects

A selector selects from the notes of the chart, so each id that it gives refers to a note. A
declaration with a selector for its notes and a token with the placeholder for its time therefore
stands for variants whose tokens all resolve, each to a moment of the note that the variant carries.

Main statement: `Selector.selects_known`.
-/
namespace Storyboard

variable {chart : Chart} {node variant merged spec : Node} {variants : List Node}
  {note : Json} {token : TimeToken} {id : NoteId}

/-- A declaration gives a token with the placeholder for its time, and a value for its note. -/
structure Node.Tracks (node : Node) (note : Json) (token : TimeToken) : Prop where
  note : Keyed.get? node "note" = some note
  time : ∃ text, Keyed.get? node "time" = some (.str text) ∧ token.SpeltBy text.toList
  refers : token.note = .placeholder

namespace Node.Tracks

/-! ## Variants -/

/-- Every variant carries a note that the selector selects, and keeps the token. -/
theorem exists_note_of_mem (tracks : node.Tracks (.obj spec) token)
    (fanned : fanOut chart node = .ok variants) (member : variant ∈ variants) :
    ∃ note ∈ chart.notes, Selector.Asks spec note ∧
      variant.Tracks (.int note.id.toInt) token := by
  obtain ⟨ids?, found, time, timed, note, noted, rfl⟩ := exists_of_mem_fanOut fanned member
  obtain ⟨text, given, spelt⟩ := tracks.time
  rw [tracks.note] at found
  obtain ⟨selector, read, rfl⟩ := Result.map_eq_ok_iff.1 found
  obtain ⟨id, selected, rfl⟩ := List.mem_map.1 noted
  obtain ⟨note, among, rfl⟩ := List.mem_map.1 selected
  obtain ⟨among, admitted⟩ := List.mem_filter.1 among
  refine ⟨note, among, (Selector.admits_iff read note).1 admitted, ?_, ⟨text, ?_, spelt⟩,
    tracks.refers⟩
  · rw [Keyed.get?_overlay]
    rfl
  · -- a text for the time does not fan out
    have kept := (Fanout.timeChanges_spec node).get?_eq_none timed "time"
      fun _ items => by rw [given]; nofun
    rw [Keyed.get?_overlay, Keyed.get?_overlay, kept, given]
    rfl

theorem exists_fanOut (tracks : node.Tracks (.obj spec) token) {selector : Selector}
    (read : Selector.ofFields spec = .ok selector) (chart : Chart) :
    ∃ variants, fanOut chart node = .ok variants := by
  rw [fanOut_eq, tracks.note, Fanout.noteIds?, read]
  exact ⟨_, rfl⟩

/-! ## Merged declarations -/

theorem withDefaultTime (tracks : node.Tracks note token) (category : Category) :
    Prepared.withDefaultTime category node = node := by
  obtain ⟨text, given, _⟩ := tracks.time
  unfold Prepared.withDefaultTime Node.given?
  rw [given]
  split
  · next absent => cases absent
  · rfl

theorem complete (tracks : node.Tracks note token) {templates : Templates}
    (completed : templates.complete node = .ok merged) : merged.Tracks note token where
  note := templates.get?_of_given completed (by decide) tracks.note
  time := by
    obtain ⟨text, given, spelt⟩ := tracks.time
    exact ⟨text, templates.get?_of_given completed (by decide) given, spelt⟩
  refers := tracks.refers

/-! ## Times -/

theorem ownNote_eq (tracks : node.Tracks (.int id.toInt) token) : ownNote node = some id := by
  rw [ownNote, tracks.note, Option.bind_some, Json.int32?_toInt]

/-- The token comes to a moment of the note. -/
theorem resolve_eq (tracks : node.Tracks (.int id.toInt) token) {note : Note}
    (found : chart.note? id = some note) (binding : Binding) :
    WrittenTime.resolve chart binding (ownNote node) (Keyed.get? node "time") =
      .ok (some (token.anchor.time note token.offset)) := by
  obtain ⟨text, given, spelt⟩ := tracks.time
  have names : token.note.Names (ownNote node) binding id := by
    rw [tracks.refers]
    exact .own tracks.ownNote_eq
  rw [given]
  exact (WrittenTime.Resolves.known spelt names found).eq nofun

/-- The first state of an object has the time that the token of its root comes to. -/
theorem time_eq (tracks : node.Tracks (.int id.toInt) token) {note : Note}
    (found : chart.note? id = some note) {category : Category} {templates : Templates}
    {binding after : Binding} {states : List (State category)}
    (made : Timeline.inOrder category chart templates binding node = .ok (states, after)) :
    ∃ first rest, states = first :: rest ∧ first.time = token.anchor.time note token.offset := by
  rw [Timeline.inOrder_eq, tracks.resolve_eq found, Result.mapError_ok_bind] at made
  -- whatever is nested comes behind the first state
  obtain ⟨first, _, made⟩ := Result.bind_eq_ok_iff.1 made
  obtain ⟨walked, _, same⟩ := Result.bind_eq_ok_iff.1 made
  cases same
  exact ⟨_, _, rfl, rfl⟩

end Node.Tracks

/-- The root of a variant carries a note and takes its time from it: the time resolves whatever the
notes of the chart are, and if no two of them share an id, the first state is at a moment of this
note. -/
structure Node.TimedBy (merged : Node) (note : Note) (token : TimeToken) (category : Category)
    (chart : Chart) (templates : Templates) : Prop where
  own : ownNote merged = some note.id
  resolves : ∃ time, WrittenTime.resolve chart none (ownNote merged) (Keyed.get? merged "time") =
    .ok (some time)
  exact : (chart.notes.map Note.id).Nodup → ∀ states after,
    Timeline.inOrder category chart templates none merged = .ok (states, after) →
    ∃ first rest, states = first :: rest ∧ first.time = token.anchor.time note token.offset

theorem Node.Tracks.timedBy {note : Note} (tracks : merged.Tracks (.int note.id.toInt) token)
    (among : note ∈ chart.notes) (category : Category) (templates : Templates) :
    merged.TimedBy note token category chart templates where
  own := tracks.ownNote_eq
  resolves := by
    obtain ⟨known, found⟩ := Chart.exists_note? among
    exact ⟨_, tracks.resolve_eq found none⟩
  exact distinct _ _ made := tracks.time_eq (Chart.note?_of_nodup distinct among) made

/-- **Selected notes are known.** An accepted selector selects the notes of the chart that do what
its spec asks, and every id that it gives refers to a note. So if a declaration gives it for its
notes and a token with the placeholder for its time, then no variant of it fails to resolve its own
time, whatever templates it is laid over. -/
theorem Selector.selects_known {selector : Selector} (read : ofFields spec = .ok selector)
    (chart : Chart) :
    Selects spec chart (selector.ids chart) ∧
    (∀ id ∈ selector.ids chart, ∃ note, chart.note? id = some note ∧ note.id = id) ∧
    ∀ node token, Node.Tracks node (.obj spec) token →
      ∃ variants, fanOut chart node = .ok variants ∧
      ∀ variant ∈ variants, ∃ note ∈ chart.notes, Asks spec note ∧
        ∀ category templates merged,
          templates.complete (Prepared.withDefaultTime category variant) = .ok merged →
          Node.TimedBy merged note token category chart templates := by
  refine ⟨selects_of_ofFields read chart, ?_, ?_⟩
  · intro id selected
    obtain ⟨note, among, rfl⟩ := List.mem_map.1 selected
    obtain ⟨known, found⟩ := Chart.exists_note? (List.mem_filter.1 among).1
    exact ⟨known, found, (Chart.id_of_note? found).2⟩
  · intro node token tracks
    obtain ⟨variants, fanned⟩ := tracks.exists_fanOut read chart
    refine ⟨variants, fanned, fun variant member => ?_⟩
    obtain ⟨note, among, asks, carries⟩ := tracks.exists_note_of_mem fanned member
    refine ⟨note, among, asks, fun category templates merged completed => ?_⟩
    rw [carries.withDefaultTime] at completed
    exact (carries.complete completed).timedBy among category templates

/-! Of three notes, those from a given id on; their declaration stands for two variants, and the
time of a template stays hidden behind their own. -/

def threeNotes : Chart where
  notes := [⟨2, 0, .zero false, 0, .ofInt 1, .ofInt 2, .ofInt 3⟩,
    ⟨4, 0, .zero false, 0, .ofInt 1, .ofInt 5, .ofInt 6⟩,
    ⟨6, 1, .zero false, 0, .ofInt 1, .ofInt 7, .ofInt 9⟩]
  sorted := by decide

def fromFourOn : Node := [("start", .int 4)]

def tracking : Node :=
  [("note", .obj fromFourOn), ("template", .str "late"), ("time", .str "start:$note:1")]

def lateTemplates : Templates := ⟨[("late", [("time", .int 100)])]⟩

theorem Selector.selects_known_from_four : ∃ selector, ofFields fromFourOn = .ok selector ∧
    selector.ids threeNotes = [4, 6] ∧ Selects fromFourOn threeNotes (selector.ids threeNotes) ∧
    ∃ variants, fanOut threeNotes tracking = .ok variants ∧
      ∀ variant ∈ variants, ∃ note ∈ threeNotes.notes, Asks fromFourOn note ∧
        ∀ merged, lateTemplates.complete variant = .ok merged →
          Node.TimedBy merged note ⟨.start, .placeholder, .ofInt 1⟩ .text threeNotes
            lateTemplates := by
  have read : ofFields fromFourOn = .ok { all with first := 4 } :=
    Result.eq_ok_of_toOption (by decide +kernel)
  have tracks : tracking.Tracks (.obj fromFourOn) ⟨.start, .placeholder, .ofInt 1⟩ :=
    ⟨rfl, ⟨_, rfl, TimeToken.ofText?_eq_some_iff.1 (by decide +kernel)⟩, rfl⟩
  obtain ⟨selects, _, variants⟩ := selects_known read threeNotes
  obtain ⟨variants, fanned, each⟩ := variants tracking _ tracks
  refine ⟨_, read, by decide +kernel, selects, variants, fanned, fun variant member => ?_⟩
  obtain ⟨note, among, asks, timed⟩ := each variant member
  exact ⟨note, among, asks, timed .text lateTemplates⟩

end Storyboard
