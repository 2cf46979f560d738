import Mathlib.Algebra.GroupWithZero.Nat
import Storyboard.Command.Rehearsal
import Storyboard.Proofs.Accounting
import Storyboard.Proofs.ChartNotes
import Storyboard.Proofs.TriggerRun

/-!
# What rehearsals report

A rehearsal is a run of triggers, and what happens to a trigger in a run does not depend on the
others. So how often a trigger fires in a rehearsal can be read off the trigger and the chart, and
the report has as many lines as these numbers come to.
-/
namespace Storyboard

/-! ## Runs of many triggers -/

namespace Triggers

theorem firings_append (armed others : List Trigger) (event : ClearEvent) :
    firings (armed ++ others) event = firings armed event ++ firings others event := by
  rw [firings, List.filter_append, List.map_append]
  rfl

theorem after_append (armed others : List Trigger) (event : ClearEvent) :
    after (armed ++ others) event = after armed event ++ after others event :=
  List.filterMap_append

/-- Triggers that run beside each other fire as often as they do on their own. -/
theorem length_run_append (armed others : List Trigger) (events : List ClearEvent) :
    (run (armed ++ others) events).1.length =
      (run armed events).1.length + (run others events).1.length := by
  -- the armed triggers stay side by side from event to event
  induction events generalizing armed others with
  | nil => rfl
  | cons event rest ih =>
    simp only [run, firings_append, after_append, List.length_append, ih]
    omega

/-- A run has the firings of each trigger. -/
theorem length_run {loaded : List Trigger} (fresh : ∀ trigger ∈ loaded, trigger.Fresh)
    (events : List ClearEvent) : (run loaded events).1.length =
      (loaded.map fun trigger => (trigger.fires events).length).sum := by
  induction loaded with
  | nil =>
    induction events with
    | nil => rfl
    | cons event rest ih => exact ih
  | cons trigger rest ih =>
    have own := run_single (fresh trigger (List.mem_cons_self ..)) events
    rw [List.map_cons, List.sum_cons, ← ih fun other member =>
      fresh other (List.mem_cons_of_mem _ member), ← List.singleton_append, length_run_append, own,
      List.length_mapIdx]

/-- Those triggers are left at the end of a run whose budget allows another firing. -/
theorem length_left {loaded : List Trigger} (fresh : ∀ trigger ∈ loaded, trigger.Fresh)
    (events : List ClearEvent) : (run loaded events).2.length =
      loaded.countP fun trigger => trigger.Allows (trigger.hits events).length := by
  rw [run_eq_survivors fresh, survivors, List.length_filterMap_eq_countP]
  refine List.countP_congr fun trigger _ => ?_
  by_cases allowed : trigger.Allows (trigger.hits events).length <;>
    simp [Trigger.afterAll?, allowed]

/-- Triggers as they are shown when a note makes them fire: the counter of uses and the note are
new. -/
def Shown (note : Note) (fired seen : List Trigger) : Prop :=
  List.Forall₂ (fun trigger after => ∃ uses,
    after = { trigger with currentUses := uses, triggerer := some note }) fired seen

/-- The triggers that fire at an event do so in their order. -/
theorem exists_shown (loaded : List Trigger) (before : List ClearEvent) (event : ClearEvent) :
    ∃ fired : List Trigger, fired.Sublist loaded ∧
      Shown event.note fired (loaded.filterMap fun trigger => trigger.call? before event) := by
  induction loaded with
  | nil => exact ⟨[], .refl [], .nil⟩
  | cons trigger rest ih =>
    obtain ⟨fired, among, shown⟩ := ih
    rw [List.filterMap_cons, Trigger.call?]
    by_cases fires : trigger.FiresAt before event
    · rw [if_pos fires]
      refine ⟨trigger :: fired, among.cons_cons trigger,
        .cons ⟨.ofNat (trigger.hits (before ++ [event])).length, ?_⟩ shown⟩
      rw [Trigger.firedAt, Trigger.hits_snoc, if_pos fires.1, List.getLast?_concat]
      rfl
    · rw [if_neg fires]
      exact ⟨fired, among.cons trigger, shown⟩

/-- The firings of a run come event by event. -/
theorem history_shown {loaded : List Trigger} (fresh : ∀ trigger ∈ loaded, trigger.Fresh)
    (before events : List ClearEvent) :
    List.Forall₂ (fun event seen => ∃ fired : List Trigger, fired.Sublist loaded ∧
        Shown event.note fired seen) events (history (survivors loaded before) events) := by
  induction events generalizing before with
  | nil => exact .nil
  | cons event rest ih =>
    rw [history, after_survivors fresh, firings_survivors]
    exact .cons (exists_shown loaded before event) (ih _)

end Triggers

/-! ## The order of a rehearsal -/

theorem Binary64.key_injective {x y : Binary64} (same : x.key = y.key) : x = y := by
  obtain ⟨xNegative, xMagnitude⟩ := x
  obtain ⟨yNegative, yMagnitude⟩ := y
  simp only [key] at same
  cases xNegative <;> cases yNegative <;> simp only [Bool.false_eq_true, if_true, if_false] at same
  · rw [mk.injEq]
    exact ⟨rfl, Fin.ext (by omega)⟩
  · omega
  · omega
  · rw [mk.injEq]
    exact ⟨rfl, Fin.ext (by omega)⟩

namespace Note

/-- A note comes before another one in a rehearsal: it starts earlier in the total order of times,
or at the same time with a smaller id. -/
def PlayedBefore (a b : Note) : Prop :=
  a.startTime.key < b.startTime.key ∨ a.startTime = b.startTime ∧ a.id < b.id

theorem playedLe_iff {a b : Note} : a.playedLe b = true ↔
    a.startTime.key < b.startTime.key ∨ a.startTime = b.startTime ∧ a.id ≤ b.id := by
  unfold playedLe
  split
  · next same => simp [same]
  · next differs =>
    have keys : a.startTime.key ≠ b.startTime.key := fun same =>
      differs (Binary64.key_injective same)
    simp only [Binary64.totalLe, decide_eq_true_eq, differs, false_and, or_false]
    omega

theorem playedLe_trans (a b c : Note) (first : a.playedLe b = true) (next : b.playedLe c = true) :
    a.playedLe c = true := by
  rw [playedLe_iff] at first next ⊢
  rcases first with first | ⟨same, first⟩
  · rcases next with next | ⟨same, _⟩
    · exact .inl (Int.lt_trans first next)
    · exact .inl (same ▸ first)
  · rcases next with next | ⟨again, next⟩
    · exact .inl (same ▸ next)
    · exact .inr ⟨same.trans again, Int32.le_trans first next⟩

theorem playedLe_total (a b : Note) : (a.playedLe b || b.playedLe a) = true := by
  rw [Bool.or_eq_true, playedLe_iff, playedLe_iff]
  rcases Int.lt_trichotomy a.startTime.key b.startTime.key with below | same | above
  · exact .inl (.inl below)
  · have same := Binary64.key_injective same
    rcases Int32.le_total a.id b.id with first | second
    · exact .inl (.inr ⟨same, first⟩)
    · exact .inr (.inr ⟨same.symm, second⟩)
  · exact .inr (.inl above)

/-- Where no two notes share an id, sorting puts each note before those behind it. -/
theorem playedBefore_mergeSort {notes : List Note} (distinct : (notes.map Note.id).Nodup) :
    (notes.mergeSort playedLe).Pairwise PlayedBefore := by
  have sorted := List.pairwise_mergeSort playedLe_trans playedLe_total notes
  have apart : ((notes.mergeSort playedLe).map Note.id).Nodup :=
    ((List.mergeSort_perm notes playedLe).map Note.id).nodup_iff.2 distinct
  rw [List.Nodup, List.pairwise_map] at apart
  refine (sorted.and apart).imp fun ⟨le, differs⟩ => ?_
  rcases playedLe_iff.1 le with below | ⟨same, le⟩
  · exact .inl below
  · exact .inr ⟨same, Int32.lt_of_le_of_ne le differs⟩

end Note

namespace Rehearsal

variable {chart : Chart}

/-- The notes that a rehearsal clears: those that the ids in its order refer to. -/
def cleared (chart : Chart) : List Note := (order chart).filterMap chart.note?

theorem mem_order_iff {id : NoteId} : id ∈ order chart ↔ ∃ note ∈ chart.notes, note.id = id := by
  rw [order, List.mem_map]
  simp only [List.mem_mergeSort]

theorem order_perm (chart : Chart) : (order chart).Perm (chart.notes.map Note.id) :=
  (List.mergeSort_perm chart.notes Note.playedLe).map Note.id

/-- The clear of notes one after the other, counting on from a combo. -/
def eventsFrom (scorePerNote : Int) : Nat → List Note → List ClearEvent
  | _, [] => []
  | combo, note :: rest =>
    ⟨note, (combo + 1 : Nat), (combo + 1 : Nat) * scorePerNote⟩ ::
      eventsFrom scorePerNote (combo + 1) rest

/-- The events of a rehearsal. -/
def events (chart : Chart) (scorePerNote : Int) : List ClearEvent :=
  eventsFrom scorePerNote 0 (cleared chart)

/-- Clearing notes of the chart is a run of their events. -/
theorem play_eq {scorePerNote : Int} {ids : List NoteId} (session : Session) (combo : Nat)
    (known : ∀ id ∈ ids, ∃ note, session.chart.note? id = some note) :
    (play scorePerNote ids combo session).map (fun played => (played.1, played.2.board.triggers)) =
      .ok (Triggers.run session.board.triggers
        (eventsFrom scorePerNote combo (ids.filterMap session.chart.note?))) := by
  induction ids generalizing session combo with
  | nil => rfl
  | cons id rest ih =>
    obtain ⟨note, found⟩ := known id (List.mem_cons_self ..)
    -- the session after the first note is one whose triggers are those after its event
    let event : ClearEvent := ⟨note, (combo + 1 : Nat), (combo + 1 : Nat) * scorePerNote⟩
    let next : Session := { session with
      board := { session.board with triggers := Triggers.after session.board.triggers event } }
    have first : session.clear id event.combo event.score =
        .ok (Triggers.firings session.board.triggers event, next) := by
      rw [Session.clear, found]
    have later := ih next (combo + 1) fun other member =>
      known other (List.mem_cons_of_mem _ member)
    obtain ⟨⟨firings, last⟩, played, same⟩ := Result.map_eq_ok_iff.1 later
    rw [List.filterMap_cons, found, eventsFrom, Triggers.run, ← same]
    simp only [play]
    rw [first, Result.ok_bind, played]
    rfl

theorem map_note_eventsFrom (scorePerNote : Int) (combo : Nat) (notes : List Note) :
    (eventsFrom scorePerNote combo notes).map ClearEvent.note = notes := by
  induction notes generalizing combo with
  | nil => rfl
  | cons note rest ih => rw [eventsFrom, List.map_cons, ih]

/-- The notes that are cleared have the ids of the order, one each. -/
theorem map_id_cleared (chart : Chart) : (cleared chart).map Note.id = order chart := by
  have along : ∀ ids ⊆ order chart, (ids.filterMap chart.note?).map Note.id = ids := by
    intro ids inside
    induction ids with
    | nil => rfl
    | cons id rest ih =>
      obtain ⟨note, member, same⟩ := mem_order_iff.1 (inside (List.mem_cons_self ..))
      obtain ⟨other, found⟩ := Chart.exists_note? member
      rw [same] at found
      rw [List.filterMap_cons, found, List.map_cons, (Chart.id_of_note? found).2,
        ih fun further later => inside (List.mem_cons_of_mem _ later)]
  exact along _ (List.Subset.refl _)

theorem length_cleared (chart : Chart) : (cleared chart).length = chart.notes.length := by
  have count := congrArg List.length (map_id_cleared chart)
  rwa [List.length_map, (order_perm chart).length_eq, List.length_map] at count

/-- Where no two notes share an id, the notes that are cleared are those of the chart in order. -/
theorem cleared_of_nodup (distinct : (chart.notes.map Note.id).Nodup) :
    cleared chart = chart.notes.mergeSort Note.playedLe := by
  rw [cleared, order, List.filterMap_map]
  have each : ∀ note ∈ chart.notes.mergeSort Note.playedLe,
      (chart.note? ∘ Note.id) note = some note :=
    fun note member => Chart.note?_of_nodup distinct (List.mem_mergeSort.1 member)
  rw [List.filterMap_congr each, List.filterMap_some]

end Rehearsal
/-! ## How often a trigger fires -/

namespace Trigger

variable {trigger : Trigger} {chart : Chart}

/-- How often a trigger fires in a rehearsal: at the notes that it lists, as often as it may; once
if its combo is reached; and once if its score is reached. If the score falls with every note, it
is highest after the first one. -/
def rehearsed (chart : Chart) (scorePerNote : Int) (trigger : Trigger) : Nat :=
  match trigger.kind with
  | .none => 0
  | .noteClear =>
    let count := chart.notes.countP fun note => note.id ∈ trigger.notes
    match trigger.uses with
    | none => count
    | some limit => min limit count
  | .combo => if 1 ≤ trigger.combo ∧ trigger.combo ≤ chart.notes.length then 1 else 0
  | .score =>
    if 1 ≤ chart.notes.length ∧
        trigger.score ≤ max scorePerNote (chart.notes.length * scorePerNote) then 1 else 0

theorem length_fires (events : List ClearEvent) : (trigger.fires events).length =
    match trigger.budget with
    | none => (trigger.hits events).length
    | some limit => min limit (trigger.hits events).length := by
  rw [fires]
  cases trigger.budget with
  | none => rfl
  | some limit => exact List.length_take

theorem hits_of_none (kind : trigger.kind = .none) (events : List ClearEvent) :
    trigger.hits events = [] := by
  refine List.filter_eq_nil_iff.2 fun event _ hit => ?_
  cases of_decide_eq_true hit <;> simp_all

/-- The notes that a trigger lists are hit as often as they are in the chart. -/
theorem length_hits_of_noteClear (kind : trigger.kind = .noteClear) (scorePerNote : Int) :
    (trigger.hits (Rehearsal.events chart scorePerNote)).length =
      chart.notes.countP fun note => note.id ∈ trigger.notes := by
  have listed (event : ClearEvent) : trigger.Hit event ↔ event.note.id ∈ trigger.notes := by
    constructor
    · intro hit
      cases hit <;> simp_all
    · exact .noteClear kind
  -- the events clear the ids of the chart in another order, and counting does not see the order
  have ids : (Rehearsal.events chart scorePerNote).map (Note.id ∘ ClearEvent.note) =
      Rehearsal.order chart := by
    rw [← List.map_map, Rehearsal.events, Rehearsal.map_note_eventsFrom, Rehearsal.map_id_cleared]
  have count := (Rehearsal.order_perm chart).countP_eq fun id => id ∈ trigger.notes
  rw [← ids, List.countP_map, List.countP_map] at count
  rw [hits, ← List.countP_eq_length_filter]
  simp only [listed]
  exact count

/-- A combo is hit once, if the combo counts past it. -/
theorem length_hits_of_combo (kind : trigger.kind = .combo) (scorePerNote : Int) (combo : Nat)
    (notes : List Note) :
    (trigger.hits (Rehearsal.eventsFrom scorePerNote combo notes)).length =
      if combo < trigger.combo ∧ trigger.combo ≤ (combo + notes.length : Nat) then 1 else 0 := by
  have reached (event : ClearEvent) : trigger.Hit event ↔ event.combo = trigger.combo := by
    constructor
    · intro hit
      cases hit <;> simp_all
    · exact .combo kind
  simp only [hits, reached]
  induction notes generalizing combo with
  | nil =>
    rw [if_neg (by simp only [List.length_nil]; omega)]
    rfl
  | cons note rest ih =>
    have others := ih (combo + 1)
    rw [Rehearsal.eventsFrom, List.filter_cons, List.length_cons]
    by_cases here : ((combo + 1 : Nat) : Int) = trigger.combo
    · -- the combo only counts up, so it is not reached again
      rw [if_neg (by omega)] at others
      rw [if_pos (decide_eq_true here), List.length_cons, others, if_pos (by omega)]
    · rw [if_neg fun same => here (of_decide_eq_true same), others]
      exact if_congr (by omega) rfl rfl

/-- A score is reached at one of the events if it is at most one of their scores. -/
theorem exists_hit_of_score (kind : trigger.kind = .score) (scorePerNote : Int) (combo : Nat)
    (notes : List Note) :
    0 < (trigger.hits (Rehearsal.eventsFrom scorePerNote combo notes)).length ↔
      ∃ count : Nat, combo < count ∧ count ≤ combo + notes.length ∧
        trigger.score ≤ count * scorePerNote := by
  have reached (event : ClearEvent) : trigger.Hit event ↔ trigger.score ≤ event.score := by
    constructor
    · intro hit
      cases hit <;> simp_all
    · exact .score kind
  simp only [hits, reached]
  induction notes generalizing combo with
  | nil =>
    simp only [Rehearsal.eventsFrom, List.filter_nil, List.length_nil]
    omega
  | cons note rest ih =>
    have others := ih (combo + 1)
    rw [Rehearsal.eventsFrom, List.filter_cons, List.length_cons]
    by_cases here : trigger.score ≤ ((combo + 1 : Nat) : Int) * scorePerNote
    · rw [if_pos (decide_eq_true here), List.length_cons]
      exact iff_of_true (Nat.succ_pos _) ⟨combo + 1, by omega, by omega, here⟩
    · rw [if_neg fun same => here (of_decide_eq_true same)]
      refine others.trans ?_
      constructor
      · rintro ⟨count, above, below, score⟩
        exact ⟨count, by omega, by omega, score⟩
      · rintro ⟨count, above, below, score⟩
        have differs : count ≠ combo + 1 := by
          rintro rfl
          exact here score
        exact ⟨count, by omega, by omega, score⟩

/-- Counting up in equal steps, the highest value is the first or the last one. -/
theorem exists_count_iff {count : Nat} {bound step : Int} :
    (∃ k : Nat, 0 < k ∧ k ≤ count ∧ bound ≤ k * step) ↔
      1 ≤ count ∧ bound ≤ max step (count * step) := by
  constructor
  · rintro ⟨k, positive, below, reached⟩
    refine ⟨by omega, ?_⟩
    -- steps up make the last value the highest, steps down the first
    rcases Int.le_total 0 step with rising | falling
    · have last : (k : Int) * step ≤ count * step :=
        Int.mul_le_mul_of_nonneg_right (by omega) rising
      omega
    · have first : (k : Int) * step ≤ 1 * step :=
        Int.mul_le_mul_of_nonpos_right (by omega) falling
      omega
  · rintro ⟨positive, reached⟩
    rcases Int.le_total step (count * step) with rising | falling
    · exact ⟨count, positive, Nat.le_refl count, by omega⟩
    · exact ⟨1, Nat.one_pos, positive, by omega⟩

/-- A trigger that may fire at all fires in a rehearsal as often as its kind, its uses and the chart
come to. -/
theorem length_fires_events (fresh : trigger.Fresh) (scorePerNote : Int) :
    (trigger.fires (Rehearsal.events chart scorePerNote)).length =
      trigger.rehearsed chart scorePerNote := by
  have usable := fresh.usable
  rw [length_fires, rehearsed]
  cases kind : trigger.kind with
  | none =>
    rw [hits_of_none kind]
    cases trigger.budget <;> simp
  | noteClear => rw [length_hits_of_noteClear kind, budget, if_neg (by rw [kind]; decide)]
  | combo =>
    have count : (trigger.hits (Rehearsal.events chart scorePerNote)).length =
        if 1 ≤ trigger.combo ∧ trigger.combo ≤ chart.notes.length then 1 else 0 := by
      rw [Rehearsal.events, length_hits_of_combo kind, Rehearsal.length_cleared]
      exact if_congr (by omega) rfl rfl
    rw [count, budget, if_neg (by rw [kind]; decide)]
    cases limited : trigger.uses with
    | none => rfl
    | some limit =>
      -- one use is enough, and there is one at least
      have positive : limit ≠ 0 := fun zero => usable (zero ▸ limited)
      dsimp only
      split <;> omega
  | score =>
    have reached := exists_hit_of_score kind scorePerNote 0 (Rehearsal.cleared chart)
    rw [Rehearsal.length_cleared, Nat.zero_add, exists_count_iff, ← Rehearsal.events] at reached
    rw [budget, if_pos kind]
    dsimp only
    split
    · next holds =>
      have some := reached.2 holds
      omega
    · next fails =>
      have none := mt reached.1 fails
      omega

theorem allows_of_budget {limit : Nat} (limited : trigger.budget = some limit) (count : Nat) :
    trigger.Allows count ↔ count < limit := by
  simp [Allows, limited]

/-- A trigger is gone after a run if it has fired and may not fire again: if it is a score trigger,
or has fired as often as it may. -/
theorem not_allows_iff (fresh : trigger.Fresh) (events : List ClearEvent) :
    ¬ trigger.Allows (trigger.hits events).length ↔
      1 ≤ (trigger.fires events).length ∧
        (trigger.kind = .score ∨ trigger.uses = some (trigger.fires events).length) := by
  have usable := fresh.usable
  rw [length_fires]
  by_cases score : trigger.kind = .score
  · have limited : trigger.budget = some 1 := by rw [budget, if_pos score]
    rw [allows_of_budget limited, limited]
    simp only [score, true_or, and_true]
    omega
  · have same : trigger.budget = trigger.uses := by rw [budget, if_neg score]
    cases limited : trigger.uses with
    | none => simp [Allows, same, limited, score]
    | some limit =>
      have positive : limit ≠ 0 := fun zero => usable (zero ▸ limited)
      rw [limited] at same
      rw [allows_of_budget same, same]
      simp only [score, false_or, Option.some.injEq]
      omega

end Trigger

/-! ## The report -/

namespace Rehearsal

variable {chart : Chart}

/-- Every note in the order of a rehearsal is in the chart. -/
theorem exists_note?_of_mem_order {id : NoteId} (member : id ∈ order chart) :
    ∃ note, chart.note? id = some note := by
  obtain ⟨note, among, rfl⟩ := mem_order_iff.1 member
  exact Chart.exists_note? among

/-- The triggers that a rehearsal uses up. -/
def spent (board : Board) (chart : Chart) (scorePerNote : Int) : Nat :=
  board.triggers.countP fun trigger =>
    1 ≤ trigger.rehearsed chart scorePerNote ∧
      (trigger.kind = .score ∨ trigger.uses = some (trigger.rehearsed chart scorePerNote))

/-- A rehearsal never fails, and reports the run of its events. -/
theorem report_eq {board : Board} (fresh : ∀ trigger ∈ board.triggers, trigger.Fresh)
    (chart : Chart) (scorePerNote : Int) :
    report board chart scorePerNote =
      .ok (heading board ++
        (Triggers.run board.triggers (events chart scorePerNote)).1.map firingLine ++
        [closing (Triggers.run board.triggers (events chart scorePerNote)).1.length
          (board.triggers.length - spent board chart scorePerNote)]) := by
  have played : _ = Except.ok (Triggers.run board.triggers (events chart scorePerNote)) :=
    play_eq ⟨board, chart⟩ 0 fun id member => exists_note?_of_mem_order member
  obtain ⟨⟨firings, last⟩, given, same⟩ := Result.map_eq_ok_iff.1 played
  have left : last.board.triggers.length =
      board.triggers.length - spent board chart scorePerNote := by
    have allowed : last.board.triggers.length = board.triggers.countP fun trigger =>
        trigger.Allows (trigger.hits (events chart scorePerNote)).length := by
      rw [← Triggers.length_left fresh, ← same]
    have gone : (board.triggers.countP fun trigger =>
        ¬ trigger.Allows (trigger.hits (events chart scorePerNote)).length) =
        spent board chart scorePerNote := by
      refine List.countP_congr fun trigger member => ?_
      rw [decide_eq_true_eq, decide_eq_true_eq, Trigger.not_allows_iff (fresh trigger member),
        Trigger.length_fires_events (fresh trigger member) scorePerNote]
    have whole : board.triggers.length =
        (board.triggers.countP fun trigger =>
          trigger.Allows (trigger.hits (events chart scorePerNote)).length) +
        board.triggers.countP fun trigger =>
          ¬ trigger.Allows (trigger.hits (events chart scorePerNote)).length := by
      rw [List.length_eq_countP_add_countP fun trigger : Trigger =>
        trigger.Allows (trigger.hits (events chart scorePerNote)).length]
      simp only [decide_eq_true_eq]
    rw [← allowed, gone] at whole
    omega
  have start : Session.start board chart (fun _ => .ok ()) = .ok ⟨board, chart⟩ := rfl
  rw [report, start, Result.ok_bind, given, Result.ok_bind, ← same, ← left]
  rfl

theorem length_firings {board : Board} (fresh : ∀ trigger ∈ board.triggers, trigger.Fresh)
    (chart : Chart) (scorePerNote : Int) :
    (Triggers.run board.triggers (events chart scorePerNote)).1.length =
      (board.triggers.map (Trigger.rehearsed chart scorePerNote)).sum := by
  rw [Triggers.length_run fresh]
  congr 1
  exact List.map_congr_left fun trigger member =>
    Trigger.length_fires_events (fresh trigger member) scorePerNote

/-- The firings of a rehearsal come note by note. -/
theorem exists_groups {board : Board} (fresh : ∀ trigger ∈ board.triggers, trigger.Fresh)
    (chart : Chart) (scorePerNote : Int) :
    ∃ groups : List (List Trigger),
      (Triggers.run board.triggers (events chart scorePerNote)).1 = groups.flatten ∧
      List.Forall₂ (fun note seen => ∃ fired : List Trigger,
        fired.Sublist board.triggers ∧ Triggers.Shown note fired seen) (cleared chart) groups := by
  refine ⟨_, Triggers.run_eq_history _ _, ?_⟩
  have shown := Triggers.history_shown fresh [] (events chart scorePerNote)
  rw [Triggers.survivors_nil fresh] at shown
  rw [← map_note_eventsFrom scorePerNote 0 (cleared chart),
    List.forall₂_map_left_iff]
  exact shown

end Rehearsal

/-- The triggers of a document of declarations are loaded fresh. -/
theorem Board.fresh_of_ofJson {chart : Chart} {strict : Bool} {root : Node} {board : Board}
    (raw : isCompiled root = false) (loaded : ofJson chart strict (.obj root) = .ok board) :
    ∀ trigger ∈ board.triggers, trigger.Fresh := by
  intro trigger member
  rw [(templates_of_ofJson raw loaded).2, Declarations.board, Declarations.triggers_eq] at member
  obtain ⟨item, _, read⟩ := List.mem_filterMap.1 member
  exact Trigger.fresh_of_ofJson (Result.eq_ok_of_toOption read)

namespace Rehearsal

/-- **Reports of rehearsals.** A rehearsal of a board that is loaded from a document of declarations
never fails. It reports one line for each firing, as many as the triggers come to in the chart
(`Trigger.rehearsed`), and closes with that number and the number of triggers that are not used
up. If no two notes of the chart share an id, the firings come in the order of the notes that make
the triggers fire, by start time and then id, and at one note in the order of the triggers. -/
theorem report_summary {source : Chart} {strict : Bool} {root : Node} {board : Board}
    (raw : Board.isCompiled root = false)
    (loaded : Board.ofJson source strict (.obj root) = .ok board) (chart : Chart)
    (scorePerNote : Int) :
    ∃ (firings : List Trigger) (remaining : Nat),
      report board chart scorePerNote = .ok (heading board ++ firings.map firingLine ++
        [s!"Simulation End: {firings.length} firings, {remaining} triggers still armed"]) ∧
      firings.length = (board.triggers.map (Trigger.rehearsed chart scorePerNote)).sum ∧
      remaining = board.triggers.length - spent board chart scorePerNote ∧
      ((chart.notes.map Note.id).Nodup → ∃ (ordered : List Note) (groups : List (List Trigger)),
        ordered.Perm chart.notes ∧ ordered.Pairwise Note.PlayedBefore ∧
        firings = groups.flatten ∧
        List.Forall₂ (fun note seen => ∃ fired : List Trigger,
          fired.Sublist board.triggers ∧ Triggers.Shown note fired seen) ordered groups) := by
  have fresh := Board.fresh_of_ofJson raw loaded
  refine ⟨_, _, report_eq fresh chart scorePerNote, length_firings fresh chart scorePerNote, rfl,
    ?_⟩
  intro distinct
  obtain ⟨groups, same, shown⟩ := exists_groups fresh chart scorePerNote
  rw [cleared_of_nodup distinct] at shown
  exact ⟨_, groups, List.mergeSort_perm chart.notes Note.playedLe,
    Note.playedBefore_mergeSort distinct, same, shown⟩

/-! Three notes, two of them at one time, with a score that falls: a trigger with two uses fires
twice of three times, a score trigger at the first note, and a combo of four is not reached. -/

def rehearsalNote (id : NoteId) (startTime : Binary64) : Note :=
  ⟨id, 0, .zero false, 0, .zero false, startTime, startTime⟩

def rehearsalChart : Chart :=
  ⟨[rehearsalNote 1 (.ofInt 2), rehearsalNote 2 (.ofInt 1), rehearsalNote 3 (.ofInt 1)], by decide⟩

def rehearsalRoot : Node :=
  [("triggers", .arr
    [.obj [("notes", .arr [.int 1, .int 2, .int 3]), ("type", .str "noteclear"), ("uses", .int 2)],
     .obj [("score", .int (-7)), ("type", .str "score")],
     .obj [("combo", .int 4), ("type", .str "combo")]])]

theorem report_summary_falling :
    Board.isCompiled rehearsalRoot = false ∧
    ∃ board, Board.ofJson Chart.empty false (.obj rehearsalRoot) = .ok board ∧
      (rehearsalChart.notes.map Note.id).Nodup ∧
      ∃ firings : List Trigger,
        report board rehearsalChart (-5) =
          .ok (heading board ++ firings.map firingLine ++
            ["Simulation End: 3 firings, 1 triggers still armed"]) ∧
        ∃ groups : List (List Trigger), firings = groups.flatten ∧ groups.length = 3 := by
  have raw : Board.isCompiled rehearsalRoot = false := by decide
  have distinct : (rehearsalChart.notes.map Note.id).Nodup := by decide
  have computed : (Board.ofJson Chart.empty false (.obj rehearsalRoot)).toOption.map
      (fun board => ((board.triggers.map (Trigger.rehearsed rehearsalChart (-5))).sum,
        board.triggers.length - spent board rehearsalChart (-5))) = some (3, 1) := by
    decide +kernel
  obtain ⟨board, found, same⟩ := Option.map_eq_some_iff.1 computed
  have loaded := Result.eq_ok_of_toOption found
  obtain ⟨count, left⟩ := Prod.mk.inj same
  obtain ⟨firings, remaining, reported, length, rest, ordered⟩ :=
    report_summary raw loaded rehearsalChart (-5)
  obtain ⟨notes, groups, perm, _, same, shown⟩ := ordered distinct
  rw [length, count, rest, left] at reported
  exact ⟨raw, board, loaded, distinct, firings, reported, groups, same,
    shown.length_eq.symm.trans perm.length_eq⟩

end Rehearsal
end Storyboard
