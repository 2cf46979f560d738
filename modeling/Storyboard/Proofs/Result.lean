import Mathlib.Data.List.Forall2

/-!
# Computations that may fail

When a computation in several steps succeeds, and when it fails with a given error. A traversal
succeeds exactly if every item does, and fails with the error of the first item that does not.
-/
namespace Storyboard.Result

variable {ε δ α β : Type}

theorem ok_bind {a : α} {f : α → Except ε β} : (.ok a : Except ε α) >>= f = f a := rfl

theorem error_bind {e : ε} {f : α → Except ε β} : (.error e : Except ε α) >>= f = .error e := rfl

theorem bind_eq_ok_iff {x : Except ε α} {f : α → Except ε β} {b : β} :
    x >>= f = .ok b ↔ ∃ a, x = .ok a ∧ f a = .ok b := by
  cases x <;> simp [bind, Except.bind]

theorem bind_eq_error_iff {x : Except ε α} {f : α → Except ε β} {e : ε} :
    x >>= f = .error e ↔ x = .error e ∨ ∃ a, x = .ok a ∧ f a = .error e := by
  cases x <;> simp [bind, Except.bind]

theorem map_eq_ok_iff {x : Except ε α} {f : α → β} {b : β} :
    x.map f = .ok b ↔ ∃ a, x = .ok a ∧ f a = b := by
  cases x <;> simp [Except.map]

theorem map_eq_error_iff {x : Except ε α} {f : α → β} {e : ε} :
    x.map f = .error e ↔ x = .error e := by
  cases x <;> simp [Except.map]

theorem eq_ok_of_toOption {x : Except ε α} {a : α} (given : x.toOption = some a) : x = .ok a := by
  cases x with
  | error e => cases given
  | ok b => exact congrArg Except.ok (Option.some.inj given)

/-! ## Errors in another form -/

theorem mapError_ok_bind {g : ε → δ} {a : α} {f : α → Except δ β} :
    (.ok a : Except ε α).mapError g >>= f = f a := rfl

theorem mapError_error_bind {g : ε → δ} {e : ε} {f : α → Except δ β} :
    (.error e : Except ε α).mapError g >>= f = .error (g e) := rfl

theorem mapError_eq_ok_iff {x : Except ε α} {g : ε → δ} {a : α} :
    x.mapError g = .ok a ↔ x = .ok a := by
  cases x <;> simp [Except.mapError]

theorem mapError_eq_error_iff {x : Except ε α} {g : ε → δ} {d : δ} :
    x.mapError g = .error d ↔ ∃ e, x = .error e ∧ g e = d := by
  cases x <;> simp [Except.mapError]

theorem mapError_bind_eq_ok_iff {x : Except ε α} {g : ε → δ} {f : α → Except δ β} {b : β} :
    x.mapError g >>= f = .ok b ↔ ∃ a, x = .ok a ∧ f a = .ok b := by
  simp only [bind_eq_ok_iff, mapError_eq_ok_iff]

/-! ## Traversals -/

/-- A traversal gives exactly the values of its items, in order. -/
theorem mapM_eq_ok_iff {f : α → Except ε β} {xs : List α} {ys : List β} :
    xs.mapM f = .ok ys ↔ List.Forall₂ (fun x y => f x = .ok y) xs ys := by
  induction xs generalizing ys with
  | nil => simp [pure, Except.pure, eq_comm]
  | cons x xs ih =>
    rw [List.mapM_cons, bind_eq_ok_iff, List.forall₂_cons_left_iff]
    constructor
    · rintro ⟨y, first, rest⟩
      obtain ⟨zs, others, same⟩ := bind_eq_ok_iff.1 rest
      cases same
      exact ⟨y, zs, first, ih.1 others, rfl⟩
    · rintro ⟨y, zs, first, others, rfl⟩
      exact ⟨y, first, bind_eq_ok_iff.2 ⟨zs, ih.2 others, rfl⟩⟩

/-- A traversal that undoes a map succeeds on what the map makes, and on nothing else. -/
theorem mapM_eq_ok_iff_eq_map {f : α → Except ε β} {g : β → α}
    (exact : ∀ x y, f x = .ok y ↔ x = g y) {xs : List α} {ys : List β} :
    xs.mapM f = .ok ys ↔ xs = ys.map g := by
  rw [mapM_eq_ok_iff, ← List.forall₂_eq_eq_eq, List.forall₂_map_right_iff]
  simp only [exact]

theorem mapM_eq_ok_map {f : α → Except ε β} {g : α → β} {xs : List α}
    (each : ∀ x ∈ xs, f x = .ok (g x)) : xs.mapM f = .ok (xs.map g) := by
  rw [mapM_eq_ok_iff, List.forall₂_map_right_iff, List.forall₂_same]
  exact each

/-- A traversal succeeds if each of its items does. -/
theorem exists_mapM_eq_ok_iff {f : α → Except ε β} {xs : List α} :
    (∃ ys, xs.mapM f = .ok ys) ↔ ∀ x ∈ xs, ∃ y, f x = .ok y := by
  induction xs with
  | nil => simp [pure, Except.pure]
  | cons x xs ih =>
    rw [List.forall_mem_cons, ← ih]
    simp only [List.mapM_cons, bind_eq_ok_iff]
    constructor
    · rintro ⟨_, y, first, ys, rest, _⟩
      exact ⟨⟨y, first⟩, ys, rest⟩
    · rintro ⟨⟨y, first⟩, ys, rest⟩
      exact ⟨y :: ys, y, first, ys, rest, rfl⟩

/-- Some item of a list is bad, and all items in front of it are good. -/
def FirstBad (good bad : α → Prop) (xs : List α) : Prop :=
  ∃ before x after, xs = before ++ x :: after ∧ (∀ earlier ∈ before, good earlier) ∧ bad x

theorem not_firstBad_nil {good bad : α → Prop} : ¬ FirstBad good bad [] := by
  rintro ⟨before, x, after, split, _⟩
  exact List.append_ne_nil_of_right_ne_nil before (List.cons_ne_nil x after) split.symm

theorem firstBad_cons {good bad : α → Prop} {x : α} {xs : List α} :
    FirstBad good bad (x :: xs) ↔ bad x ∨ good x ∧ FirstBad good bad xs := by
  constructor
  · rintro ⟨before, y, after, split, earlier, wrong⟩
    rcases List.cons_eq_append_iff.1 split with ⟨rfl, same⟩ | ⟨between, rfl, same⟩
    · cases same
      exact .inl wrong
    · rw [List.forall_mem_cons] at earlier
      exact .inr ⟨earlier.1, between, y, after, same, earlier.2, wrong⟩
  · rintro (wrong | ⟨first, before, y, after, rfl, earlier, wrong⟩)
    · exact ⟨[], x, xs, rfl, List.forall_mem_nil _, wrong⟩
    · exact ⟨x :: before, y, after, rfl, List.forall_mem_cons.2 ⟨first, earlier⟩, wrong⟩

/-- A traversal fails with the error of the first item that fails. -/
theorem mapM_eq_error_iff {f : α → Except ε β} {xs : List α} {e : ε} :
    xs.mapM f = .error e ↔ FirstBad (fun x => ∃ y, f x = .ok y) (fun x => f x = .error e) xs := by
  induction xs with
  | nil => exact iff_of_false nofun not_firstBad_nil
  | cons x xs ih =>
    rw [List.mapM_cons, bind_eq_error_iff, firstBad_cons, ← ih]
    refine or_congr_right ?_
    simp only [bind_eq_error_iff, pure, Except.pure, reduceCtorEq, and_false, exists_false,
      or_false, exists_and_right]

/-- Every value of a traversal comes from one of its items. -/
theorem exists_of_mem_mapM {f : α → Except ε β} {xs : List α} {ys : List β}
    (done : xs.mapM f = .ok ys) {y : β} (member : y ∈ ys) : ∃ x ∈ xs, f x = .ok y := by
  have related := mapM_eq_ok_iff.1 done
  clear done
  induction related with
  | nil => simp at member
  | @cons x z xs ys first _ ih =>
    rcases List.mem_cons.1 member with rfl | later
    · exact ⟨x, List.mem_cons_self .., first⟩
    · obtain ⟨w, inside, given⟩ := ih later
      exact ⟨w, List.mem_cons_of_mem _ inside, given⟩

/-- A loop that succeeds keeps what each of its steps keeps. -/
theorem foldlM_preserves {step : β → α → Except ε β} (kept : β → Prop) {xs : List α}
    {start last : β}
    (steps : ∀ x ∈ xs, ∀ before after, step before x = .ok after → kept before → kept after)
    (done : xs.foldlM step start = .ok last) (first : kept start) : kept last := by
  induction xs generalizing start with
  | nil =>
    cases done
    exact first
  | cons x xs ih =>
    rw [List.foldlM_cons, bind_eq_ok_iff] at done
    obtain ⟨middle, given, rest⟩ := done
    apply ih _ rest
    · exact steps x (List.mem_cons_self ..) start middle given first
    · exact fun y member => steps y (List.mem_cons_of_mem _ member)

/-- A loop fails with the error of the first step that fails. -/
theorem foldlM_eq_error_iff {step : β → α → Except ε β} {xs : List α} {start : β} {e : ε} :
    xs.foldlM step start = .error e ↔
      ∃ before x after, xs = before ++ x :: after ∧
        ∃ reached, before.foldlM step start = .ok reached ∧ step reached x = .error e := by
  constructor
  · intro failed
    -- the first step fails itself, or it succeeds and the rest of the loop fails from there
    induction xs generalizing start with
    | nil => cases failed
    | cons x xs ih =>
      rw [List.foldlM_cons, bind_eq_error_iff] at failed
      rcases failed with now | ⟨middle, given, rest⟩
      · exact ⟨[], x, xs, rfl, start, rfl, now⟩
      · obtain ⟨before, y, after, rfl, reached, passed, later⟩ := ih rest
        refine ⟨x :: before, y, after, rfl, reached, ?_, later⟩
        rw [List.foldlM_cons, given]
        exact passed
  · rintro ⟨before, x, after, rfl, reached, passed, now⟩
    rw [List.foldlM_append, passed, bind_eq_error_iff]
    right
    refine ⟨reached, rfl, ?_⟩
    rw [List.foldlM_cons, now]
    rfl

/-- Whenever a computation fails, its error has a property. -/
def FailsOnlyWith (allowed : ε → Prop) (x : Except ε α) : Prop :=
  ∀ e, x = .error e → allowed e

namespace FailsOnlyWith

variable {allowed : ε → Prop}

theorem ok (a : α) : FailsOnlyWith allowed (.ok a : Except ε α) := by
  intro e failed
  cases failed

theorem error {e : ε} (holds : allowed e) : FailsOnlyWith allowed (.error e : Except ε α) := by
  intro e failed
  cases failed
  exact holds

theorem bind {x : Except ε α} {f : α → Except ε β} (first : FailsOnlyWith allowed x)
    (next : ∀ a, FailsOnlyWith allowed (f a)) : FailsOnlyWith allowed (x >>= f) := by
  intro e failed
  rcases bind_eq_error_iff.1 failed with now | ⟨a, _, later⟩
  · exact first e now
  · exact next a e later

theorem map {x : Except ε α} (f : α → β) (first : FailsOnlyWith allowed x) :
    FailsOnlyWith allowed (x.map f) :=
  fun e failed => first e (map_eq_error_iff.1 failed)

theorem mapError {x : Except ε α} {g : ε → δ} {wider : δ → Prop}
    (narrow : FailsOnlyWith allowed x) (kept : ∀ e, allowed e → wider (g e)) :
    FailsOnlyWith wider (x.mapError g) := by
  intro d failed
  obtain ⟨e, now, rfl⟩ := mapError_eq_error_iff.1 failed
  exact kept e (narrow e now)

theorem mapM {f : α → Except ε β} (xs : List α) (each : ∀ x, FailsOnlyWith allowed (f x)) :
    FailsOnlyWith allowed (xs.mapM f) := by
  induction xs with
  | nil => exact ok []
  | cons x xs ih =>
    rw [List.mapM_cons]
    exact bind (each x) fun y => bind ih fun ys => ok (y :: ys)

theorem weaken {x : Except ε α} {wider : ε → Prop} (narrow : FailsOnlyWith allowed x)
    (wide : ∀ e, allowed e → wider e) : FailsOnlyWith wider x :=
  fun e failed => wide e (narrow e failed)

end FailsOnlyWith

end Storyboard.Result
