import Mathlib.Data.List.Induction
import Storyboard.Proofs.WrittenTriggers
import Storyboard.Trigger.Engine

/-!
# Runs of triggers

What a run of events does to loaded triggers, said of each trigger on its own: it fires at the
events that hit it, in order, until its budget is spent, and it is armed as long as it has been hit
less often than that. The state of a trigger during a run is a function of the trigger and the
events so far (`Trigger.afterAll?`), so a run is a filter of the loaded triggers at every point.
-/
namespace Storyboard

namespace Trigger

/-- When an event hits a trigger, by the kind of the trigger. -/
inductive Hit : Trigger → ClearEvent → Prop
  | noteClear {trigger : Trigger} {event : ClearEvent} (kind : trigger.kind = .noteClear)
      (listed : event.note.id ∈ trigger.notes) : Hit trigger event
  | combo {trigger : Trigger} {event : ClearEvent} (kind : trigger.kind = .combo)
      (reached : event.combo = trigger.combo) : Hit trigger event
  | score {trigger : Trigger} {event : ClearEvent} (kind : trigger.kind = .score)
      (reached : trigger.score ≤ event.score) : Hit trigger event

theorem isHitBy_iff {trigger : Trigger} {event : ClearEvent} :
    trigger.isHitBy event = true ↔ trigger.Hit event := by
  unfold isHitBy
  constructor
  · intro hit
    split at hit
    · cases hit
    · next kind => exact .noteClear kind (List.contains_iff_mem.1 hit)
    · next kind => exact .combo kind (beq_iff_eq.1 hit)
    · next kind => exact .score kind (of_decide_eq_true hit)
  · intro hit
    cases hit with
    | noteClear kind listed => simp [kind, listed]
    | combo kind reached => simp [kind, reached]
    | score kind reached => simp [kind, reached]

instance (trigger : Trigger) (event : ClearEvent) : Decidable (trigger.Hit event) :=
  decidable_of_iff _ isHitBy_iff

/-- How often a trigger may fire, if there is a limit: a score trigger only once. -/
def budget (trigger : Trigger) : Option Nat :=
  if trigger.kind = .score then some 1 else trigger.uses

/-- Whether a trigger that was hit a number of times may still fire. -/
def Allows (trigger : Trigger) (count : Nat) : Prop :=
  ∀ limit, trigger.budget = some limit → count < limit

instance (trigger : Trigger) (count : Nat) : Decidable (trigger.Allows count) :=
  decidable_of_iff (trigger.budget.all (count < ·) = true)
    (by cases h : trigger.budget <;> simp [Allows, h])

/-- The events that hit a trigger. -/
def hits (trigger : Trigger) (events : List ClearEvent) : List ClearEvent :=
  events.filter (trigger.Hit ·)

/-- A trigger as it is after it has fired at some events. -/
def firedAt (trigger : Trigger) (fired : List ClearEvent) : Trigger :=
  { trigger with
    currentUses := .ofNat fired.length
    triggerer := fired.getLast?.map ClearEvent.note }

/-- A loaded trigger after some events, if it is still armed. -/
def afterAll? (trigger : Trigger) (events : List ClearEvent) : Option Trigger :=
  if trigger.Allows (trigger.hits events).length then
    some (trigger.firedAt (trigger.hits events))
  else none

/-- Whether a loaded trigger fires at an event that comes after some others. -/
def FiresAt (trigger : Trigger) (before : List ClearEvent) (event : ClearEvent) : Prop :=
  trigger.Hit event ∧ trigger.Allows (trigger.hits before).length

instance (trigger : Trigger) (before : List ClearEvent) (event : ClearEvent) :
    Decidable (trigger.FiresAt before event) :=
  inferInstanceAs (Decidable (_ ∧ _))

/-- What the handler sees of a loaded trigger at an event that comes after some others, if the
trigger fires. -/
def call? (trigger : Trigger) (before : List ClearEvent) (event : ClearEvent) : Option Trigger :=
  if trigger.FiresAt before event then some (trigger.firedAt (trigger.hits (before ++ [event])))
  else none

/-- The events at which a loaded trigger fires: the first of those that hit it, as many as its
budget allows. -/
def fires (trigger : Trigger) (events : List ClearEvent) : List ClearEvent :=
  match trigger.budget with
  | none => trigger.hits events
  | some limit => (trigger.hits events).take limit

/-! ## Loaded triggers -/

/-- A trigger that has not been used and may be used at least once. A limit of its uses is one that
the counter can reach. -/
structure Fresh (trigger : Trigger) : Prop where
  unused : trigger.currentUses = 0
  quiet : trigger.triggerer = none
  usable : trigger.uses ≠ some 0
  bounded : ∀ limit, trigger.uses = some limit → limit < UInt32.size

/-- A trigger that is read is fresh. -/
theorem fresh_of_ofJson {value : Json} {trigger : Trigger}
    (read : ofJson value = .ok trigger) : trigger.Fresh := by
  obtain ⟨node, -, written⟩ := ofJson_eq_ok_iff.1 read
  have counted : ∀ limit, trigger.uses = some limit → 1 ≤ limit ∧ limit ≤ 0xffffffff := by
    intro limit limited
    have entry := written.entries .uses
    rw [Entry.Gives] at entry
    split at entry
    · cases limited.symm.trans entry
    · obtain ⟨n, -, -, counts⟩ := entry
      exact ((counts limit).1 limited).2
  refine ⟨written.unused, written.quiet, fun zero => ?_, fun limit limited => ?_⟩
  · exact absurd (counted 0 zero).1 (by decide)
  · exact Nat.lt_succ_of_le (counted limit limited).2

/-! ## One trigger -/

theorem hits_snoc (trigger : Trigger) (before : List ClearEvent) (event : ClearEvent) :
    trigger.hits (before ++ [event]) =
      trigger.hits before ++ if trigger.Hit event then [event] else [] := by
  by_cases hit : trigger.Hit event <;> simp [hits, hit]

/-- Firing changes nothing that decides what hits a trigger. -/
theorem isHitBy_firedAt (trigger : Trigger) (fired : List ClearEvent) (event : ClearEvent) :
    (trigger.firedAt fired).isHitBy event = trigger.isHitBy event := rfl

theorem fire_firedAt (trigger : Trigger) (fired : List ClearEvent) (event : ClearEvent) :
    (trigger.firedAt fired).fire event = trigger.firedAt (fired ++ [event]) := by
  simp [fire, firedAt, UInt32.ofNat_add]

/-- As long as a trigger has fired less than 2^32 times, its counter is the number of firings. -/
theorem toNat_currentUses_firedAt {trigger : Trigger} {fired : List ClearEvent}
    (short : fired.length < UInt32.size) :
    (trigger.firedAt fired).currentUses.toNat = fired.length :=
  UInt32.toNat_ofNat_of_lt' short

/-- A trigger that may fire once more is spent by it exactly if it may not fire again. -/
theorem isSpent_firedAt {trigger : Trigger} (fresh : trigger.Fresh) {fired : List ClearEvent}
    (event : ClearEvent) (allowed : trigger.Allows fired.length) :
    (trigger.firedAt (fired ++ [event])).isSpent = true ↔
      ¬ trigger.Allows (fired ++ [event]).length := by
  by_cases score : trigger.kind = .score
  · simp [isSpent, firedAt, Allows, budget, score]
  · cases limited : trigger.uses with
    | none => simp [isSpent, firedAt, Allows, budget, score, limited]
    | some limit =>
      -- one use is left at least, so this one brings the counter to the limit at most, which it
      -- reaches without starting over
      have below : fired.length < limit := allowed limit (by simp [budget, score, limited])
      have reached : (fired ++ [event]).length ≤ limit := by
        rw [List.length_append]
        exact below
      have counter := @toNat_currentUses_firedAt trigger (fired ++ [event])
        (Nat.lt_of_le_of_lt reached (fresh.bounded limit limited))
      have spent : (trigger.firedAt (fired ++ [event])).isSpent = true ↔
          limit = (fired ++ [event]).length := by
        rw [isSpent, counter]
        simp [firedAt, score, limited]
      rw [spent]
      simp only [Allows, budget, score, if_false, limited, Option.some.injEq, forall_eq']
      omega

theorem afterAll?_nil {trigger : Trigger} (fresh : trigger.Fresh) :
    trigger.afterAll? [] = some trigger := by
  -- every budget is positive: that of a score trigger is one, and a limit of zero is never read
  have allowed : trigger.Allows 0 := by
    intro limit given
    unfold budget at given
    split at given
    · cases given
      exact Nat.one_pos
    · exact Nat.pos_of_ne_zero fun zero => fresh.usable (zero ▸ given)
  have same : trigger.firedAt [] = trigger := by
    cases trigger
    simp only [firedAt, List.length_nil, List.getLast?_nil, Option.map_none, mk.injEq, true_and]
    exact ⟨fresh.unused.symm, fresh.quiet.symm⟩
  rw [afterAll?, show trigger.hits [] = [] from rfl, List.length_nil, if_pos allowed, same]

/-- Fewer hits are allowed where more are. -/
theorem Allows.mono {trigger : Trigger} {count more : Nat} (allowed : trigger.Allows more)
    (le : count ≤ more) : trigger.Allows count :=
  fun limit given => Nat.lt_of_le_of_lt le (allowed limit given)

/-- **Step**: one event takes a trigger from its state after some events to its state after one
more. -/
theorem afterAll?_snoc {trigger : Trigger} (fresh : trigger.Fresh) (before : List ClearEvent)
    (event : ClearEvent) :
    ((trigger.afterAll? before).bind fun armed => armed.after? event) =
      trigger.afterAll? (before ++ [event]) := by
  by_cases allowed : trigger.Allows (trigger.hits before).length
  · rw [afterAll?, if_pos allowed, Option.bind_some, after?, isHitBy_firedAt, fire_firedAt]
    by_cases hit : trigger.Hit event
    · have grown : trigger.hits (before ++ [event]) = trigger.hits before ++ [event] := by
        rw [hits_snoc, if_pos hit]
      -- the trigger retires after this use exactly if the budget does not allow another one
      have spent := isSpent_firedAt fresh event allowed
      rw [if_pos (isHitBy_iff.2 hit), afterAll?, grown]
      by_cases more : trigger.Allows (trigger.hits before ++ [event]).length
      · rw [if_pos more, if_neg fun used => spent.1 used more]
      · rw [if_neg more, if_pos (spent.2 more)]
    · have same : trigger.hits (before ++ [event]) = trigger.hits before := by
        rw [hits_snoc, if_neg hit, List.append_nil]
      rw [if_neg fun holds => hit (isHitBy_iff.1 holds), afterAll?, same, if_pos allowed]
  -- a trigger that has retired stays so, since the hits only grow
  · have still : ¬ trigger.Allows (trigger.hits (before ++ [event])).length := by
      refine fun more => allowed (more.mono ?_)
      rw [hits_snoc, List.length_append]
      omega
    rw [afterAll?, if_neg allowed, afterAll?, if_neg still, Option.bind_none]

/-- What an armed trigger shows at an event. -/
theorem call?_eq (trigger : Trigger) (before : List ClearEvent) (event : ClearEvent) :
    (((trigger.afterAll? before).filter fun armed => armed.isHitBy event).map
      fun armed => armed.fire event) = trigger.call? before event := by
  by_cases allowed : trigger.Allows (trigger.hits before).length
  · rw [afterAll?, if_pos allowed, call?]
    by_cases hit : trigger.Hit event
    · have holds : (trigger.firedAt (trigger.hits before)).isHitBy event = true := by
        rw [isHitBy_firedAt]
        exact isHitBy_iff.2 hit
      rw [if_pos ⟨hit, allowed⟩, hits_snoc, if_pos hit, Option.filter_some, if_pos holds,
        Option.map_some, fire_firedAt]
    · have fails : ¬ (trigger.firedAt (trigger.hits before)).isHitBy event = true :=
        fun holds => hit (isHitBy_iff.1 holds)
      rw [if_neg fun both => hit both.1, Option.filter_some, if_neg fails, Option.map_none]
  · rw [afterAll?, if_neg allowed, call?, if_neg fun both => allowed both.2]
    rfl

/-- The events at which a trigger fires grow by an event that hits it within its budget. -/
theorem fires_snoc (trigger : Trigger) (before : List ClearEvent) (event : ClearEvent) :
    trigger.fires (before ++ [event]) = trigger.fires before ++
      if trigger.FiresAt before event then [event] else [] := by
  unfold FiresAt
  by_cases hit : trigger.Hit event
  · cases limited : trigger.budget with
    | none => simp [fires, limited, hits_snoc, hit, Allows]
    | some limit =>
      have allows : trigger.Allows (trigger.hits before).length ↔
          (trigger.hits before).length < limit := by
        simp [Allows, limited]
      simp only [fires, limited, hits_snoc, hit, allows, true_and, if_true]
      by_cases below : (trigger.hits before).length < limit
      -- within the budget, taking the first hits takes all of them
      · have whole : (trigger.hits before ++ [event]).length ≤ limit := by
          rwa [List.length_append]
        rw [if_pos below, List.take_of_length_le whole, List.take_of_length_le (Nat.le_of_lt below)]
      · rw [if_neg below, List.append_nil, List.take_append_of_le_length (Nat.le_of_not_lt below)]
  · simp only [fires, hits_snoc, hit, false_and, if_false, List.append_nil]

theorem fires_sublist_hits (trigger : Trigger) (events : List ClearEvent) :
    (trigger.fires events).Sublist (trigger.hits events) := by
  unfold fires
  cases trigger.budget with
  | none => exact .refl _
  | some limit => exact List.take_sublist limit _

/-- A trigger that may still fire has fired at every hit. -/
theorem fires_eq_hits {trigger : Trigger} {events : List ClearEvent}
    (allowed : trigger.Allows (trigger.hits events).length) :
    trigger.fires events = trigger.hits events := by
  cases limited : trigger.budget with
  | none => simp only [fires, limited]
  | some limit =>
    have below := allowed limit limited
    simp only [fires, limited]
    exact List.take_of_length_le (Nat.le_of_lt below)

end Trigger

namespace Triggers

/-- **One sweep**: the triggers that stay armed are those after the event, and the handler is given
the firings in order, each of which is counted. -/
theorem sweep_eq {σ : Type} (handle : σ → Trigger → σ) (event : ClearEvent) (armed : List Trigger)
    (seen : σ) (count : Nat) :
    sweep handle event armed seen count =
      (after armed event, (firings armed event).foldl handle seen,
        count + (firings armed event).length) := by
  induction armed generalizing seen count with
  | nil => rfl
  | cons trigger rest ih =>
    simp only [sweep, ih, after, firings, List.filterMap_cons, List.filter_cons, Trigger.after?]
    by_cases hit : trigger.isHitBy event = true
    · by_cases spent : (trigger.fire event).isSpent = true
      · simp [hit, spent]
        omega
      · simp [hit, spent]
        omega
    · simp [hit]

/-- The firings of each event of a run. -/
def history (armed : List Trigger) : List ClearEvent → List (List Trigger)
  | [] => []
  | event :: rest => firings armed event :: history (after armed event) rest

/-- The triggers of a list that are armed after some events. -/
def survivors (loaded : List Trigger) (events : List ClearEvent) : List Trigger :=
  loaded.filterMap fun trigger => trigger.afterAll? events

theorem run_eq_history (armed : List Trigger) (events : List ClearEvent) :
    (run armed events).1 = (history armed events).flatten := by
  induction events generalizing armed with
  | nil => rfl
  | cons event rest ih => simp only [run, history, List.flatten_cons, ih]

theorem survivors_nil {loaded : List Trigger} (fresh : ∀ trigger ∈ loaded, trigger.Fresh) :
    survivors loaded [] = loaded := by
  induction loaded with
  | nil => rfl
  | cons trigger rest ih =>
    have others : survivors rest [] = rest :=
      ih fun other member => fresh other (List.mem_cons_of_mem _ member)
    rw [survivors] at others ⊢
    rw [List.filterMap_cons, Trigger.afterAll?_nil (fresh trigger (List.mem_cons_self ..)), others]

theorem firings_survivors (loaded : List Trigger) (before : List ClearEvent)
    (event : ClearEvent) : firings (survivors loaded before) event =
      loaded.filterMap fun trigger => trigger.call? before event := by
  rw [firings, survivors, List.filter_filterMap, List.map_filterMap]
  exact List.filterMap_congr fun trigger _ => trigger.call?_eq before event

section

variable {loaded : List Trigger} (fresh : ∀ trigger ∈ loaded, trigger.Fresh)

include fresh

theorem after_survivors (before : List ClearEvent) (event : ClearEvent) :
    after (survivors loaded before) event = survivors loaded (before ++ [event]) := by
  rw [after, survivors, List.filterMap_filterMap]
  exact List.filterMap_congr fun trigger member =>
    Trigger.afterAll?_snoc (fresh trigger member) before event

/-- The firings at each event of a run, from the triggers that are armed at its start. -/
theorem getElem?_history (before : List ClearEvent) {events : List ClearEvent} {i : Nat}
    {event : ClearEvent} (present : events[i]? = some event) :
    (history (survivors loaded before) events)[i]? =
      some (loaded.filterMap fun trigger => trigger.call? (before ++ events.take i) event) := by
  induction events generalizing before i with
  | nil => simp at present
  | cons first rest ih =>
    -- after its first event, the rest of the run starts from the survivors of that event
    rw [history, after_survivors fresh]
    cases i with
    | zero =>
      cases present
      rw [List.getElem?_cons_zero, firings_survivors, List.take_zero, List.append_nil]
    | succ i =>
      rw [List.getElem?_cons_succ, ih _ present, List.take_succ_cons, List.append_assoc]
      rfl

/-- **Run**: the armed triggers at the end of a run that begins after some events. -/
theorem run_survivors (before events : List ClearEvent) :
    (run (survivors loaded before) events).2 = survivors loaded (before ++ events) := by
  induction events generalizing before with
  | nil => rw [List.append_nil, run]
  | cons event rest ih =>
    simp only [run, after_survivors fresh, ih, List.append_assoc]
    rfl

theorem run_eq_survivors (events : List ClearEvent) :
    (run loaded events).2 = survivors loaded events := by
  have ended := run_survivors fresh [] events
  rwa [survivors_nil fresh] at ended

end

/-- A run goes on from the triggers that are armed at the end of its first part. -/
theorem run_append (armed : List Trigger) (before after : List ClearEvent) :
    run armed (before ++ after) =
      ((run armed before).1 ++ (run (run armed before).2 after).1,
        (run (run armed before).2 after).2) := by
  induction before generalizing armed with
  | nil => rfl
  | cons first rest ih => simp only [List.cons_append, run, ih, List.append_assoc]

theorem run_snoc (armed : List Trigger) (before : List ClearEvent) (event : ClearEvent) :
    (run armed (before ++ [event])).1 =
      (run armed before).1 ++ firings (run armed before).2 event := by
  simp only [run_append, run, List.append_nil]

/-- The firings of a trigger on its own, counted from the first. -/
theorem run_single {trigger : Trigger} (fresh : trigger.Fresh) (events : List ClearEvent) :
    (run [trigger] events).1 = (trigger.fires events).mapIdx fun k event =>
      { trigger with currentUses := .ofNat (k + 1), triggerer := some event.note } := by
  have alone : ∀ other ∈ [trigger], other.Fresh := by simpa using fresh
  induction events using List.reverseRecOn with
  | nil => cases limited : trigger.budget <;> simp [run, Trigger.fires, limited, Trigger.hits]
  | append_singleton before event ih =>
    rw [run_snoc, ih, run_eq_survivors alone, firings_survivors, Trigger.fires_snoc,
      List.mapIdx_append]
    congr 1
    by_cases fires : trigger.FiresAt before event
    · rw [List.filterMap_cons, Trigger.call?, if_pos fires, if_pos fires, Trigger.hits_snoc,
        if_pos fires.1, Trigger.fires_eq_hits fires.2]
      simp [Trigger.firedAt]
    · rw [List.filterMap_cons, Trigger.call?, if_neg fires, if_neg fires]
      rfl

/-- The counters at the firings of a trigger count from one on, without starting over. -/
theorem map_currentUses_run_single {trigger : Trigger} (fresh : trigger.Fresh)
    {events : List ClearEvent} (short : events.length < UInt32.size) :
    (run [trigger] events).1.map (fun seen => seen.currentUses.toNat) =
      List.range' 1 (trigger.fires events).length := by
  have few : (trigger.fires events).length ≤ events.length :=
    ((trigger.fires_sublist_hits events).trans List.filter_sublist).length_le
  rw [run_single fresh]
  refine List.ext_getElem (by simp) fun k inside _ => ?_
  have below : k < (trigger.fires events).length := by simpa using inside
  have exact : (UInt32.ofNat (k + 1)).toNat = k + 1 := UInt32.toNat_ofNat_of_lt' (by omega)
  simp only [List.getElem_map, List.getElem_mapIdx, List.getElem_range', exact]
  omega

/-- What is seen of the triggers in a run, at a firing or at the end, is a loaded trigger that has
fired at some of the events. -/
theorem exists_firedAt {loaded : List Trigger} (fresh : ∀ trigger ∈ loaded, trigger.Fresh)
    {before events : List ClearEvent} {seen : Trigger}
    (member : seen ∈ (run (survivors loaded before) events).1 ++
      (run (survivors loaded before) events).2) :
    ∃ trigger ∈ loaded, ∃ fired : List ClearEvent, fired.Sublist (before ++ events) ∧
      seen = trigger.firedAt fired := by
  induction events generalizing before with
  | nil =>
    obtain ⟨trigger, among, armed⟩ := List.mem_filterMap.1 member
    unfold Trigger.afterAll? at armed
    split at armed <;> cases armed
    rw [List.append_nil]
    exact ⟨trigger, among, _, List.filter_sublist, rfl⟩
  | cons event rest ih =>
    have later : before ++ event :: rest = before ++ [event] ++ rest := by simp
    simp only [run, after_survivors fresh, firings_survivors, List.append_assoc] at member
    rw [later]
    rcases List.mem_append.1 member with shown | remaining
    · obtain ⟨trigger, among, shown⟩ := List.mem_filterMap.1 shown
      unfold Trigger.call? at shown
      split at shown <;> cases shown
      exact ⟨trigger, among, _, List.filter_sublist.trans (List.sublist_append_left ..), rfl⟩
    · exact ih remaining

theorem length_history (armed : List Trigger) (events : List ClearEvent) :
    (history armed events).length = events.length := by
  induction events generalizing armed with
  | nil => rfl
  | cons event rest ih => rw [history, List.length_cons, List.length_cons, ih]

/-- As many triggers show up at an event as fire at it. -/
theorem length_calls (loaded : List Trigger) (before : List ClearEvent) (event : ClearEvent) :
    (loaded.filterMap fun trigger => trigger.call? before event).length =
      loaded.countP fun trigger => trigger.FiresAt before event := by
  rw [List.length_filterMap_eq_countP]
  refine List.countP_congr fun trigger _ => ?_
  by_cases fires : trigger.FiresAt before event <;> simp [Trigger.call?, fires]

/-- **Trigger runs.** In a run of events over loaded triggers, each trigger fires at the first
events that hit it, as many as its budget allows; at its `k`th firing its counter is `k`, its
triggerer is the note of the event, and all else is as it was loaded. At each event the armed
triggers are swept once: the handler is given the firings in the order of the triggers, the count is
the number of triggers that fire, and the next event finds the triggers that are kept. At the end
those triggers are armed, in order, whose budget exceeds their hits. What happens to a trigger is a
function of the trigger and the events alone, and no counter starts over: whatever is seen of a
trigger, its counter is the number of events at which it has fired. -/
theorem run_of_loaded (loaded : List Trigger) (events : List ClearEvent)
    (read : ∀ trigger ∈ loaded, ∃ value, Trigger.ofJson value = .ok trigger)
    (short : events.length < 0x100000000) :
    (run loaded events).1 = (history loaded events).flatten ∧
    (history loaded events).length = events.length ∧
    (∀ i event, events[i]? = some event → ∃ calls,
      (history loaded events)[i]? = some calls ∧
      calls = loaded.filterMap (fun trigger => trigger.call? (events.take i) event) ∧
      calls.length = loaded.countP (fun trigger => trigger.FiresAt (events.take i) event) ∧
      ∀ (σ : Type) (handle : σ → Trigger → σ) (seen : σ),
        sweep handle event (run loaded (events.take i)).2 seen 0 =
          ((run loaded (events.take (i + 1))).2, calls.foldl handle seen, calls.length)) ∧
    (∀ trigger ∈ loaded,
      (run [trigger] events).1 = (trigger.fires events).mapIdx (fun k event =>
        { trigger with currentUses := .ofNat (k + 1), triggerer := some event.note }) ∧
      (run [trigger] events).1.map (fun seen => seen.currentUses.toNat) =
        List.range' 1 (trigger.fires events).length) ∧
    (run loaded events).2 = loaded.filterMap (fun trigger => trigger.afterAll? events) ∧
    (∀ seen ∈ (run loaded events).1 ++ (run loaded events).2, ∃ trigger ∈ loaded,
      ∃ fired : List ClearEvent, fired.Sublist events ∧ seen = trigger.firedAt fired ∧
        seen.currentUses.toNat = fired.length) := by
  -- a loaded list is its own list of survivors before any event, where the run lemmas start
  have fresh : ∀ trigger ∈ loaded, trigger.Fresh := by
    intro trigger member
    obtain ⟨value, given⟩ := read trigger member
    exact Trigger.fresh_of_ofJson given
  have start : survivors loaded [] = loaded := survivors_nil fresh
  refine ⟨run_eq_history loaded events, length_history loaded events, ?_, ?_, ?_, ?_⟩
  · intro i event present
    have calls := getElem?_history fresh [] present
    rw [start, List.nil_append] at calls
    refine ⟨_, calls, rfl, length_calls loaded _ event, fun σ handle seen => ?_⟩
    -- the event finds the survivors of those before it, and the sweep leaves the next survivors
    rw [sweep_eq, run_eq_survivors fresh, run_eq_survivors fresh, after_survivors fresh,
      firings_survivors, List.take_add_one, present, Nat.zero_add]
    rfl
  · intro trigger member
    exact ⟨run_single (fresh trigger member) events,
      map_currentUses_run_single (fresh trigger member) short⟩
  · exact run_eq_survivors fresh events
  · intro seen member
    rw [← start] at member
    obtain ⟨trigger, among, fired, inside, rfl⟩ := exists_firedAt fresh member
    exact ⟨trigger, among, fired, inside, rfl,
      Trigger.toNat_currentUses_firedAt (Nat.lt_of_le_of_lt inside.length_le short)⟩

/-! Three clears of one note, against a trigger with two uses, a score trigger and a combo. -/

def sampleNote : Note := ⟨1, 0, .zero false, 0, .zero false, .zero false, .zero false⟩

def sampleEvents : List ClearEvent :=
  [⟨sampleNote, 1, 100⟩, ⟨sampleNote, 2, 600⟩, ⟨sampleNote, 3, 700⟩]

def sampleTriggers : List Trigger :=
  [⟨.noteClear, some 2, 0, [1], [], [], 0, 0, none⟩,
   ⟨.score, some 5, 0, [], [], [], 0, 500, none⟩,
   ⟨.combo, none, 0, [], [], [], 2, 0, none⟩]

theorem run_of_loaded_sample :
    (∀ trigger ∈ sampleTriggers, ∃ value, Trigger.ofJson value = .ok trigger) ∧
    sampleEvents.length < 0x100000000 ∧
    (history sampleTriggers sampleEvents).length = 3 ∧
    (run sampleTriggers sampleEvents).2 =
      [⟨.combo, none, 1, [], [], [], 2, 0, some sampleNote⟩] := by
  have read : ∀ trigger ∈ sampleTriggers, ∃ value, Trigger.ofJson value = .ok trigger := by
    simp only [sampleTriggers, List.forall_mem_cons, List.not_mem_nil, false_implies,
      implies_true, and_true]
    refine ⟨⟨.obj [("notes", .arr [.int 1]), ("type", .str "NoteClear"), ("uses", .int 2)], ?_⟩,
      ⟨.obj [("score", .int 500), ("type", .str "score"), ("uses", .int 5)], ?_⟩,
      ⟨.obj [("combo", .int 2), ("type", .str "combo")], ?_⟩⟩
    · exact Result.eq_ok_of_toOption (by decide +kernel)
    · exact Result.eq_ok_of_toOption (by decide +kernel)
    · exact Result.eq_ok_of_toOption (by decide +kernel)
  have short : sampleEvents.length < 0x100000000 := by decide
  obtain ⟨-, length, -, -, armed, -⟩ := run_of_loaded sampleTriggers sampleEvents read short
  refine ⟨read, short, length, ?_⟩
  rw [armed]
  decide +kernel

end Triggers
end Storyboard
