import Mathlib.Data.List.Basic
import Storyboard.Declaration.Placeholder

/-!
# Filled texts

Filling a text leaves no placeholder in it. What is put in is an integer, which shares no character
with the placeholder and is never empty, so no new placeholder can arise where the pieces meet.
-/
namespace Storyboard.Placeholder

/-- A text in which the placeholder does not occur. -/
def Free (text : String) : Prop := ¬ word <:+: text.toList

/-- The placeholder occurs in a text if the text contains it as a whole. -/
theorem occurs_iff {text : List Char} : occurs text = true ↔ word <:+: text := by
  fun_induction occurs text with
  | case1 => exact iff_of_false nofun (by decide)
  | case2 rest => exact iff_of_true rfl ⟨[], rest, rfl⟩
  | case3 c rest other ih =>
    rw [ih, List.infix_cons_iff, iff_or_self]
    rintro ⟨tail, same⟩
    obtain ⟨first, later⟩ := List.cons.inj same
    exact absurd later.symm fun split => other tail first.symm split

theorem not_free_iff {text : String} : ¬ Free text ↔ occurs text.toList = true :=
  not_not.trans occurs_iff.symm

theorem free_of_not_occurs {text : String} (absent : ¬ occurs text.toList = true) : Free text :=
  fun contained => absent (occurs_iff.2 contained)

/-- Without the first character of the placeholder there is no placeholder. -/
theorem free_of_not_mem {text : String} (absent : '$' ∉ text.toList) : Free text := by
  intro contained
  exact absent (contained.subset (by decide))

/-! ## Filling -/

/-- A value that shares no character with the placeholder. -/
def Apart (value : List Char) : Prop := ∀ c ∈ value, c ∉ word

variable {value : List Char}

theorem Apart.infix_of_infix_append {rest : List Char} (apart : Apart value)
    (contained : word <:+: value ++ rest) : word <:+: rest := by
  induction value with
  | nil => exact contained
  | cons c value ih =>
    rw [List.cons_append, List.infix_cons_iff] at contained
    rcases contained with ⟨tail, same⟩ | later
    · -- the placeholder would begin with a character of the value
      have first : '$' = c := (List.cons.inj same).1
      subst first
      exact absurd (by decide) (apart '$' (List.mem_cons_self ..))
    · exact ih (fun d member => apart d (List.mem_cons_of_mem c member)) later

/-- What a filled text begins with, if it is made of characters of the placeholder, stood in the
text before. -/
theorem Apart.prefix_of_prefix_fill {start text : List Char} (apart : Apart value)
    (nonempty : value ≠ []) (letters : ∀ c ∈ start, c ∈ word) (begins : start <+: fill value text) :
    start <+: text := by
  induction start generalizing text with
  | nil => exact List.nil_prefix
  | cons c start ih =>
    have letter : c ∈ word := letters c (List.mem_cons_self ..)
    have others : ∀ d ∈ start, d ∈ word := fun d member => letters d (List.mem_cons_of_mem c member)
    unfold fill at begins
    split at begins
    · simp at begins
    · -- at a placeholder the filled text begins with a character of the value
      cases value with
      | nil => exact absurd rfl nonempty
      | cons v value =>
        obtain ⟨rfl, _⟩ := List.cons_prefix_cons.1 begins
        exact absurd letter (apart c (List.mem_cons_self ..))
    · obtain ⟨rfl, later⟩ := List.cons_prefix_cons.1 begins
      exact List.cons_prefix_cons.2 ⟨rfl, ih others later⟩

theorem Apart.not_infix_fill (apart : Apart value) (nonempty : value ≠ []) (text : List Char) :
    ¬ word <:+: fill value text := by
  fun_induction fill value text with
  | case1 => decide
  | case2 rest ih => exact fun contained => ih (apart.infix_of_infix_append contained)
  | case3 c rest other ih =>
    rw [List.infix_cons_iff]
    rintro (begins | later)
    · obtain ⟨rfl, tail⟩ := List.cons_prefix_cons.1 begins
      -- then the rest of the placeholder stood behind this character all along
      have letters : ∀ d ∈ "note".toList, d ∈ word := fun d => List.mem_cons_of_mem '$'
      obtain ⟨behind, same⟩ := apart.prefix_of_prefix_fill nonempty letters tail
      exact other behind rfl same.symm
    · exact ih later

/-- A text without the placeholder stays as it is. -/
theorem fillIn_of_free {text : String} (free : Free text) (binding : Binding)
    (own : Option NoteId) : fillIn binding own text = .ok text := by
  rw [fillIn, if_neg (mt occurs_iff.1 free)]

/-- Only a text with the placeholder cannot be filled in, and only where nothing stands for it. -/
theorem eq_of_fillIn_error {binding : Binding} {own : Option NoteId} {text : String}
    {fault : Fault} (failed : fillIn binding own text = .error fault) :
    ¬ Free text ∧ binding.use own = none ∧ fault = (Fault.of .unboundNote).within text := by
  unfold fillIn at failed
  split at failed
  · next occurs =>
    split at failed
    · cases failed
    · next unbound =>
      cases failed
      exact ⟨not_free_iff.2 occurs, unbound, rfl⟩
  · cases failed

/-! ## Integers -/

theorem isDigit_of_mem_repr {n : Nat} {c : Char} (member : c ∈ n.repr.toList) :
    c.isDigit = true := by
  rw [Nat.repr_eq_ofList_toDigits, String.toList_ofList] at member
  exact Nat.isDigit_of_mem_toDigits (by decide) (by decide) member

theorem apart_repr (n : Nat) : Apart n.repr.toList := by
  intro c member letter
  have digit := isDigit_of_mem_repr member
  have letters : word.all (fun d => !d.isDigit) = true := by decide
  have other := List.all_eq_true.1 letters c letter
  rw [digit] at other
  cases other

theorem repr_ne_nil (n : Nat) : n.repr.toList ≠ [] := by
  rw [Nat.repr_eq_ofList_toDigits, String.toList_ofList]
  exact Nat.toDigits_ne_nil

theorem toString_int_cases (n : Int) :
    (∃ k : Nat, (toString n).toList = k.repr.toList) ∨
      ∃ k : Nat, (toString n).toList = '-' :: k.repr.toList := by
  cases n with
  | ofNat k => exact .inl ⟨k, rfl⟩
  | negSucc k =>
    refine .inr ⟨k + 1, ?_⟩
    change ("-" ++ (k + 1).repr).toList = _
    rw [String.toList_append]
    rfl

theorem apart_toString (n : Int) : Apart (toString n).toList := by
  rcases toString_int_cases n with ⟨k, same⟩ | ⟨k, same⟩
  · rw [same]
    exact apart_repr k
  · rw [same]
    intro c member
    rcases List.mem_cons.1 member with rfl | member
    · decide
    · exact apart_repr k c member

theorem toString_ne_nil (n : Int) : (toString n).toList ≠ [] := by
  rcases toString_int_cases n with ⟨k, same⟩ | ⟨k, same⟩
  · rw [same]
    exact repr_ne_nil k
  · rw [same]
    exact List.cons_ne_nil _ _

/-- A text that can be filled in is free of the placeholder afterwards. -/
theorem free_of_fillIn {binding : Binding} {own : Option NoteId} {text filled : String}
    (done : fillIn binding own text = .ok filled) : Free filled := by
  unfold fillIn at done
  split at done
  · split at done
    · next id _ =>
      cases done
      rw [Free, String.toList_ofList]
      exact (apart_toString id.toInt).not_infix_fill (toString_ne_nil id.toInt) text.toList
    · cases done
  · next absent =>
    cases done
    exact free_of_not_occurs absent

end Storyboard.Placeholder
