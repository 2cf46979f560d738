import Mathlib.Algebra.GroupWithZero.Nat
import Storyboard.Performance
import Storyboard.Proofs.TriggerRun

/-!
# Calls to a performance

A call with a note that is not in the chart is answered with a fault and changes nothing; every
other call is one event for the triggers. So a whole run of calls shows the renderer what the
triggers fire in a run of the events that the known notes make, and it leaves everything but the
triggers as it was.

Main statement: `Performance.run_routes`.
-/
namespace Storyboard

/-- What a screen comes to when it is shown some triggers. -/
theorem Renderer.foldl_present {ρ : Type} {renderer : Renderer ρ} (screen : Screen ρ)
    (shown : List Trigger) :
    shown.foldl renderer.present screen =
      ⟨shown.foldl renderer.onTrigger screen.state, screen.shown ++ shown⟩ := by
  induction shown generalizing screen with
  | nil => simp
  | cons first rest ih => simp [ih, Renderer.present]

/-- The event that a call makes, if its note is in the chart. -/
def ClearCall.event? (chart : Chart) (call : ClearCall) : Option ClearEvent :=
  (chart.note? call.id).map fun note => ⟨note, call.combo, call.score⟩

/-- The events that calls make, one for each call with a known note. -/
def ClearCall.events (chart : Chart) (calls : List ClearCall) : List ClearEvent :=
  calls.filterMap (ClearCall.event? chart)

theorem ClearCall.events_cons (chart : Chart) (call : ClearCall) (rest : List ClearCall) :
    events chart (call :: rest) = (call.event? chart).toList ++ events chart rest := by
  rw [events, List.filterMap_cons]
  cases call.event? chart <;> rfl

namespace Performance

variable {ρ : Type} {renderer : Renderer ρ} {performance : Performance ρ} {call : ClearCall}

/-- The number of firings that an answer reports. -/
def reported : Except SessionFault Nat → Nat
  | .ok count => count
  | .error _ => 0

/-- A performance after some events. -/
def after (renderer : Renderer ρ) (performance : Performance ρ) (events : List ClearEvent) :
    Performance ρ :=
  let session := performance.session
  let played := Triggers.run session.board.triggers events
  ⟨{ session with board := { session.board with triggers := played.2 } },
    played.1.foldl renderer.present performance.screen⟩

theorem after_append (renderer : Renderer ρ) (performance : Performance ρ)
    (before later : List ClearEvent) :
    after renderer (after renderer performance before) later =
      after renderer performance (before ++ later) := by
  simp only [after, Triggers.run_append, List.foldl_append]

/-! ## One call -/

/-- A performance answers a call as its session does, with the renderer shown the firings. -/
theorem clear_eq (renderer : Renderer ρ) (performance : Performance ρ) (call : ClearCall) :
    clear renderer performance call =
      match performance.session.clear call.id call.combo call.score with
      | .error fault => (.error fault, performance)
      | .ok (firings, session) =>
        (.ok firings.length, ⟨session, firings.foldl renderer.present performance.screen⟩) := by
  rw [clear, Session.clear]
  cases performance.session.chart.note? call.id with
  | none => rfl
  | some note => simp only [Triggers.sweep_eq, Nat.zero_add]

theorem clear_unknown (unknown : performance.session.chart.note? call.id = none) :
    clear renderer performance call = (.error (.unknownNote call.id), performance) := by
  rw [clear_eq, Session.clear, unknown]

theorem clear_known {note : Note} (known : performance.session.chart.note? call.id = some note) :
    clear renderer performance call =
      (.ok (Triggers.firings performance.session.board.triggers
          ⟨note, call.combo, call.score⟩).length,
        after renderer performance [⟨note, call.combo, call.score⟩]) := by
  rw [clear_eq, Session.clear, known]
  simp only [after, Triggers.run, List.append_nil]

/-- **Step**: a call is the event that it makes, or nothing if it makes none. -/
theorem clear_step (renderer : Renderer ρ) (performance : Performance ρ) (call : ClearCall) :
    (clear renderer performance call).2 =
        after renderer performance (call.event? performance.session.chart).toList ∧
      reported (clear renderer performance call).1 =
        (Triggers.run performance.session.board.triggers
          (call.event? performance.session.chart).toList).1.length := by
  cases known : performance.session.chart.note? call.id with
  | none =>
    rw [clear_unknown known, ClearCall.event?, known]
    exact ⟨rfl, rfl⟩
  | some note =>
    rw [clear_known known, ClearCall.event?, known]
    simp [Triggers.run, reported]

/-! ## Runs -/

theorem run_cons (performance : Performance ρ) (call : ClearCall) (rest : List ClearCall) :
    run renderer performance (call :: rest) =
      ((clear renderer performance call).1 ::
          (run renderer (clear renderer performance call).2 rest).1,
        (run renderer (clear renderer performance call).2 rest).2) := rfl

theorem run_append (performance : Performance ρ) (before later : List ClearCall) :
    run renderer performance (before ++ later) =
      ((run renderer performance before).1 ++
          (run renderer (run renderer performance before).2 later).1,
        (run renderer (run renderer performance before).2 later).2) := by
  induction before generalizing performance with
  | nil => rfl
  | cons call rest ih => simp only [List.cons_append, run_cons, ih]

/-- Every call is answered. -/
theorem length_run (renderer : Renderer ρ) (performance : Performance ρ)
    (calls : List ClearCall) :
    (run renderer performance calls).1.length = calls.length := by
  induction calls generalizing performance with
  | nil => rfl
  | cons call rest ih => rw [run_cons, List.length_cons, List.length_cons, ih]

/-- A call in a run is answered from where the calls in front of it lead. -/
theorem run_at (renderer : Renderer ρ) (performance : Performance ρ)
    (before later : List ClearCall) (call : ClearCall) :
    (run renderer performance (before ++ call :: later)).1[before.length]? =
        some (clear renderer (run renderer performance before).2 call).1 ∧
      (run renderer performance (before ++ [call])).2 =
        (clear renderer (run renderer performance before).2 call).2 := by
  constructor
  · have answered := length_run renderer performance before
    rw [run_append, List.getElem?_append_right (Nat.le_of_eq answered), answered, Nat.sub_self,
      run_cons, List.getElem?_cons_zero]
  · rw [run_append, run_cons, run]

/-- **Run**: a run of calls is the run of the events that they make. -/
theorem run_eq_after (performance : Performance ρ) (calls : List ClearCall) :
    (run renderer performance calls).2 =
        after renderer performance (ClearCall.events performance.session.chart calls) ∧
      ((run renderer performance calls).1.map reported).sum =
        (Triggers.run performance.session.board.triggers
          (ClearCall.events performance.session.chart calls)).1.length := by
  induction calls generalizing performance with
  | nil => exact ⟨rfl, rfl⟩
  | cons call rest ih =>
    -- the call keeps the chart, so the events of the rest do not depend on where it starts
    obtain ⟨next, count⟩ := clear_step renderer performance call
    obtain ⟨last, counts⟩ := ih (clear renderer performance call).2
    rw [next] at last counts
    rw [ClearCall.events_cons]
    constructor
    · rw [run_cons, next, last, after_append]
      rfl
    · rw [run_cons, next, List.map_cons, List.sum_cons, count, counts, Triggers.run_append,
        List.length_append]
      rfl

/-- A performance starts with the board and the chart it is given, and with nothing shown. -/
theorem of_start {board : Board} {chart : Chart} {state : ρ}
    (started : start renderer board chart state = .ok performance) :
    performance.session = ⟨board, chart⟩ ∧ performance.screen.shown = [] := by
  unfold start at started
  split at started
  · cases started
    exact ⟨rfl, rfl⟩
  · cases started

/-- **Runs of calls.** In a performance that has started, a call with a note that is not in the
chart is answered with the fault that names it, and changes neither the session nor the renderer.
Every other call is answered with the number of firings that it shows the renderer. A whole run
shows the firings of the triggers in a run of the events that the known notes make, and ends with
the triggers that are armed after that run; tables, templates, diagnostics and chart are those of
the start. The renderer has been shown as many firings as the answers report together. -/
theorem run_routes {board : Board} {chart : Chart} {state : ρ} {first : Performance ρ}
    (started : start renderer board chart state = .ok first) (calls : List ClearCall) :
    (∀ before call later, calls = before ++ call :: later →
      ∃ answer, (run renderer first calls).1[before.length]? = some answer ∧
        (chart.note? call.id = none → answer = .error (.unknownNote call.id) ∧
          (run renderer first (before ++ [call])).2 = (run renderer first before).2) ∧
        ∀ note, chart.note? call.id = some note → ∃ firings,
          firings = Triggers.firings (run renderer first before).2.session.board.triggers
            ⟨note, call.combo, call.score⟩ ∧
          answer = .ok firings.length ∧
          (run renderer first (before ++ [call])).2.screen.shown =
            (run renderer first before).2.screen.shown ++ firings) ∧
    (run renderer first calls).1.length = calls.length ∧
    (run renderer first calls).2.session =
      ⟨{ board with
          triggers := (Triggers.run board.triggers (ClearCall.events chart calls)).2 }, chart⟩ ∧
    (run renderer first calls).2.screen.shown =
      (Triggers.run board.triggers (ClearCall.events chart calls)).1 ∧
    (run renderer first calls).2.screen.state =
      (run renderer first calls).2.screen.shown.foldl renderer.onTrigger first.screen.state ∧
    ((run renderer first calls).1.map reported).sum =
      (run renderer first calls).2.screen.shown.length := by
  obtain ⟨session, fresh⟩ := of_start started
  have reached (calls : List ClearCall) : (run renderer first calls).2 =
      after renderer first (ClearCall.events chart calls) := by
    rw [(run_eq_after first calls).1, session]
  have shown (calls : List ClearCall) : (run renderer first calls).2.screen.shown =
      (Triggers.run board.triggers (ClearCall.events chart calls)).1 := by
    rw [reached, after, Renderer.foldl_present, fresh, session, List.nil_append]
  refine ⟨?_, length_run renderer first calls, ?_, shown calls, ?_, ?_⟩
  · rintro before call later rfl
    obtain ⟨answered, next⟩ := run_at renderer first before later call
    have chart : (run renderer first before).2.session.chart = chart := by
      rw [reached, after, session]
    refine ⟨_, answered, fun unknown => ?_, fun note known => ?_⟩
    · rw [next, clear_unknown (chart ▸ unknown)]
      exact ⟨rfl, rfl⟩
    · rw [next, clear_known (chart ▸ known)]
      refine ⟨_, rfl, rfl, ?_⟩
      simp only [after, Triggers.run, List.append_nil, Renderer.foldl_present]
  · rw [reached, after, session]
  · rw [shown, reached, after, Renderer.foldl_present, session]
  · rw [(run_eq_after first calls).2, shown, session]

/-! A renderer that notes what is spawned, and a trigger that fires once: of three calls the first
has an unknown note, and only the second fires. -/

def spawner : Renderer (List String) where
  setUp state _ := .ok state
  onTrigger state trigger := state ++ trigger.spawn

def cueChart : Chart where
  notes := [⟨1, 0, .zero false, 0, .ofInt 1, .ofInt 2, .ofInt 2⟩]
  sorted := List.pairwise_singleton ..

def cueBoard : Board :=
  { Board.empty with triggers := [⟨.noteClear, some 1, 0, [1], ["a"], [], 0, 0, none⟩] }

def cueCalls : List ClearCall := [⟨9, 1, 10⟩, ⟨1, 1, 10⟩, ⟨1, 2, 20⟩]

theorem run_routes_cue : ∃ first, start spawner cueBoard cueChart [] = .ok first ∧
    (run spawner first cueCalls).1 = [.error (.unknownNote 9), .ok 1, .ok 0] ∧
    (run spawner first cueCalls).2.screen.shown.length = 1 ∧
    (run spawner first cueCalls).2.screen.state = ["a"] ∧
    (run spawner first cueCalls).2.session = ⟨{ cueBoard with triggers := [] }, cueChart⟩ := by
  have started : start spawner cueBoard cueChart [] =
      .ok ⟨⟨cueBoard, cueChart⟩, ⟨[], []⟩⟩ := rfl
  obtain ⟨-, -, session, shown, state, counted⟩ := run_routes started cueCalls
  refine ⟨_, started, by decide, ?_, ?_, ?_⟩
  · rw [← counted]
    decide
  · rw [state, shown]
    decide
  · rw [session]
    rfl

end Performance
end Storyboard
