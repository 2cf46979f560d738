/-!
# Entries under text keys

A list of entries, each under its own key, in increasing order of the keys. The operations make
sense for every list: the first entry under a key is the one that counts.
-/
namespace Storyboard

abbrev Keyed (α : Type) := List (String × α)

namespace Keyed

variable {α : Type}

/-- The first entry under a key. -/
def get? (entries : Keyed α) (key : String) : Option α :=
  match entries with
  | [] => none
  | (k, value) :: rest => if k = key then some value else get? rest key

/-- Replaces the entry under a key, or adds one at its place in the order. -/
def insert (key : String) (value : α) : Keyed α → Keyed α
  | [] => [(key, value)]
  | (k, old) :: rest =>
    if k = key then (key, value) :: rest
    else if key < k then (key, value) :: (k, old) :: rest
    else (k, old) :: insert key value rest

def erase (key : String) (entries : Keyed α) : Keyed α :=
  entries.filter fun entry => entry.1 ≠ key

/-- Lays one list over another: where both have a key, the upper entry counts. -/
def overlay (lower upper : Keyed α) : Keyed α :=
  upper.foldr (fun entry entries => insert entry.1 entry.2 entries) lower

/-- The entries of a list in order; of several under one key the first. -/
def ofList (entries : List (String × α)) : Keyed α := overlay [] entries

theorem get?_insert (key other : String) (value : α) (entries : Keyed α) :
    get? (insert key value entries) other =
      if key = other then some value else get? entries other := by
  induction entries with
  | nil => simp [insert, get?]
  | cons entry rest ih =>
    obtain ⟨k, old⟩ := entry
    simp only [insert]
    split
    · next same =>
      subst same
      simp only [get?]
      split <;> rfl
    · next differs =>
      split
      · simp only [get?]
      · simp only [get?, ih]
        by_cases first : k = other
        · subst first
          simp [Ne.symm differs]
        · simp [first]

theorem get?_erase (key other : String) (entries : Keyed α) :
    get? (erase key entries) other = if key = other then none else get? entries other := by
  induction entries with
  | nil => simp [erase, get?]
  | cons entry rest ih =>
    obtain ⟨k, old⟩ := entry
    simp only [erase] at ih ⊢
    by_cases gone : k = key
    · subst gone
      simp only [ne_eq, not_true_eq_false, decide_false, Bool.false_eq_true, not_false_eq_true,
        List.filter_cons_of_neg, ih, get?]
      split <;> simp_all
    · simp only [ne_eq, gone, not_false_eq_true, decide_true, List.filter_cons_of_pos, get?, ih]
      by_cases first : k = other
      · subst first
        simp [Ne.symm gone]
      · simp [first]

theorem get?_overlay (lower upper : Keyed α) (key : String) :
    get? (overlay lower upper) key = (get? upper key).or (get? lower key) := by
  induction upper with
  | nil => simp [overlay, get?]
  | cons entry rest ih =>
    obtain ⟨k, value⟩ := entry
    simp only [overlay, List.foldr_cons, get?_insert, get?] at ih ⊢
    split <;> simp_all

theorem get?_append (front back : Keyed α) (key : String) :
    get? (front ++ back) key = (get? front key).or (get? back key) := by
  induction front with
  | nil => simp [get?]
  | cons entry rest ih =>
    obtain ⟨k, value⟩ := entry
    simp only [List.cons_append, get?, ih]
    split <;> rfl

theorem get?_map {β : Type} (f : α → β) (entries : Keyed α) (key : String) :
    get? (entries.map fun entry => (entry.1, f entry.2)) key = (get? entries key).map f := by
  induction entries with
  | nil => rfl
  | cons entry rest ih =>
    obtain ⟨k, value⟩ := entry
    simp only [List.map_cons, get?, ih]
    split <;> rfl

/-- The look-up of an entry that may be left out. -/
theorem get?_toList_map {β : Type} (key other : String) (f : α → β) (value : Option α) :
    get? (value.map fun v => (key, f v)).toList other =
      if key = other then value.map f else none := by
  cases value <;> simp [get?]

/-- Putting entries in order changes no look-up. -/
@[simp] theorem get?_ofList (entries : List (String × α)) (key : String) :
    get? (ofList entries) key = get? entries key := by
  rw [ofList, get?_overlay]
  simp [get?]

theorem get?_eq_none {entries : Keyed α} {key : String}
    (absent : ∀ entry ∈ entries, entry.1 ≠ key) : get? entries key = none := by
  induction entries with
  | nil => rfl
  | cons entry rest ih =>
    obtain ⟨k, value⟩ := entry
    have differs : k ≠ key := absent (k, value) (List.mem_cons_self ..)
    simp only [get?, if_neg differs]
    exact ih fun entry member => absent entry (List.mem_cons_of_mem _ member)

/-- A new key adds an entry and leaves the others as they are. -/
theorem perm_insert {key : String} {value : α} {entries : Keyed α}
    (fresh : ∀ entry ∈ entries, entry.1 ≠ key) :
    (insert key value entries).Perm ((key, value) :: entries) := by
  induction entries with
  | nil => exact .refl _
  | cons first rest ih =>
    obtain ⟨k, old⟩ := first
    obtain ⟨differs, others⟩ := List.forall_mem_cons.1 fresh
    rw [insert, if_neg differs]
    split
    · exact .refl _
    · exact ((ih others).cons (k, old)).trans (.swap (key, value) (k, old) rest)

/-- Entries under different keys are all kept. -/
theorem perm_ofList {entries : List (String × α)} (distinct : (entries.map Prod.fst).Nodup) :
    (ofList entries).Perm entries := by
  induction entries with
  | nil => exact .refl _
  | cons first rest ih =>
    obtain ⟨key, value⟩ := first
    obtain ⟨fresh, distinct⟩ := List.nodup_cons.1 distinct
    refine (perm_insert fun entry member same => fresh ?_).trans ((ih distinct).cons (key, value))
    exact same ▸ List.mem_map_of_mem ((ih distinct).mem_iff.1 member)

theorem mem_of_mem_insert {key : String} {value : α} {entries : Keyed α} {entry : String × α}
    (member : entry ∈ insert key value entries) : entry = (key, value) ∨ entry ∈ entries := by
  induction entries with
  | nil => simpa [insert] using member
  | cons first rest ih =>
    obtain ⟨k, old⟩ := first
    simp only [insert] at member
    split at member
    · rcases List.mem_cons.1 member with rfl | later
      · exact .inl rfl
      · exact .inr (List.mem_cons_of_mem _ later)
    · split at member
      · exact List.mem_cons.1 member
      · rcases List.mem_cons.1 member with rfl | later
        · exact .inr (List.mem_cons_self ..)
        · exact (ih later).imp_right (List.mem_cons_of_mem _)

theorem mem_of_mem_ofList {entries : List (String × α)} {entry : String × α}
    (member : entry ∈ ofList entries) : entry ∈ entries := by
  induction entries with
  | nil => simp [ofList, overlay] at member
  | cons first rest ih =>
    rcases mem_of_mem_insert member with rfl | later
    · exact List.mem_cons_self ..
    · exact List.mem_cons_of_mem _ (ih later)

end Keyed
end Storyboard
