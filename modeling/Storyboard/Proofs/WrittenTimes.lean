import Mathlib.Data.List.TakeWhile
import Storyboard.Declaration.TimeToken
import Storyboard.Proofs.Result

/-!
# How times are written

The grammar of time tokens, apart from the reader: an anchor, a note and perhaps an offset with
colons between them, where numbers may have blanks around them and nothing else may. A field value
comes to a time, to no time, or to one of two faults, and only a placeholder changes what is bound.
Apart from how numbers are read, the grammar decides all of it: a text that it does not derive
neither fails nor binds, however much it looks like a token.

Main statement: `WrittenTime.resolve_law`.
-/
namespace Storyboard

/-! ## Texts in pieces -/

namespace Text

theorem pieces_eq_splitOn (mark : Char) (text : List Char) :
    pieces mark text = text.splitOn mark := by
  induction text with
  | nil => rfl
  | cons c rest ih =>
    have split : pieces mark rest = rest.splitOnP (· == mark) := by
      rw [ih, List.splitOn_eq_splitOnP]
    rw [pieces, List.splitOn_eq_splitOnP, List.splitOnP_cons_eq_if_modifyHead, split]
    by_cases same : c = mark
    · rw [if_pos same, if_pos (beq_iff_eq.2 same)]
    · rw [if_neg same, if_neg (mt beq_iff_eq.1 same)]
      cases pieces : rest.splitOnP (· == mark) with
      | nil => exact absurd pieces (List.splitOnP_ne_nil _ _)
      | cons first others => rfl

theorem intercalate_pieces (mark : Char) (text : List Char) :
    [mark].intercalate (pieces mark text) = text := by
  rw [pieces_eq_splitOn, List.intercalate_splitOn]

theorem pieces_intercalate (mark : Char) {parts : List (List Char)}
    (apart : ∀ part ∈ parts, mark ∉ part) (some : parts ≠ []) :
    pieces mark ([mark].intercalate parts) = parts := by
  rw [pieces_eq_splitOn, List.splitOn_intercalate mark apart some]

/-- A text with blanks around it. -/
inductive Padded (core : List Char) : List Char → Prop
  | intro {left right : List Char} (before : ∀ c ∈ left, isBlank c = true)
      (behind : ∀ c ∈ right, isBlank c = true) : Padded core (left ++ (core ++ right))

theorem padded_trim (text : List Char) : Padded (trim text) text := by
  have blank (text : List Char) : ∀ c ∈ text.takeWhile isBlank, isBlank c = true :=
    List.all_eq_true.1 List.all_takeWhile
  -- the blanks at the end are those at the beginning of the reversed rest
  have rest : text.dropWhile isBlank =
      trim text ++ ((text.dropWhile isBlank).reverse.takeWhile isBlank).reverse := by
    rw [trim, ← List.reverse_append, List.takeWhile_append_dropWhile, List.reverse_reverse]
  have whole : text = text.takeWhile isBlank ++
      (trim text ++ ((text.dropWhile isBlank).reverse.takeWhile isBlank).reverse) := by
    rw [← rest, List.takeWhile_append_dropWhile]
  generalize trim text = core at whole
  rw [whole]
  exact .intro (blank text) fun c member => blank _ c (List.mem_reverse.1 member)

theorem trim_of_padded {core text : List Char} (padded : Padded core text)
    (solid : ∀ c ∈ core, isBlank c = false) : trim text = core := by
  obtain ⟨before, behind⟩ := padded
  rw [trim, List.dropWhile_append_of_pos before]
  cases core with
  | nil => rw [List.nil_append, List.dropWhile_eq_nil_iff.2 behind]; rfl
  | cons c rest =>
    -- the text begins and ends with characters that are no blanks
    have first : ¬ isBlank c = true := by rw [solid c (List.mem_cons_self ..)]; decide
    have reversed : (c :: rest).reverse.dropWhile isBlank = (c :: rest).reverse := by
      rw [List.dropWhile_eq_self_iff]
      intro inside
      rw [solid _ (List.mem_reverse.1 (List.getElem_mem inside))]
      decide
    rw [List.cons_append, List.dropWhile_cons_of_neg first, ← List.cons_append,
      List.reverse_append, List.dropWhile_append_of_pos, reversed, List.reverse_reverse]
    exact fun c member => behind c (List.mem_reverse.1 member)

end Text

namespace Decimal

/-- A character that numbers are written with. -/
def IsMark (c : Char) : Prop := c.isAlphanum = true ∨ c ∈ ['+', '-', '.']

theorem IsMark.of_isDigit {c : Char} (digit : c.isDigit = true) : IsMark c := by
  left
  rw [Char.isAlphanum, digit, Bool.or_true]

theorem IsMark.of_isAlpha {c : Char} (letter : c.isAlpha = true) : IsMark c := by
  left
  rw [Char.isAlphanum, letter, Bool.true_or]

theorem IsMark.bounds {c : Char} (isMark : IsMark c) :
    (0x2b ≤ c.toNat ∧ c.toNat < 0x3a) ∨ (0x41 ≤ c.toNat ∧ c.toNat < 0x7b) := by
  have toNat_le {least most : UInt32} (within : least ≤ c.val ∧ c.val ≤ most) :
      least.toNat ≤ c.toNat ∧ c.toNat ≤ most.toNat :=
    ⟨UInt32.le_iff_toNat_le.1 within.1, UInt32.le_iff_toNat_le.1 within.2⟩
  rcases isMark with alphanumeric | listed
  · rcases Bool.or_eq_true_iff.1 alphanumeric with letter | digit
    · rcases Bool.or_eq_true_iff.1 letter with upper | lower
      · obtain ⟨least, most⟩ := toNat_le (of_decide_eq_true upper)
        exact .inr ⟨least, Nat.lt_of_le_of_lt most (by decide)⟩
      · obtain ⟨least, most⟩ := Bool.and_eq_true_iff.1 lower
        obtain ⟨least, most⟩ := toNat_le ⟨of_decide_eq_true least, of_decide_eq_true most⟩
        exact .inr ⟨Nat.le_trans (by decide) least, Nat.lt_succ_of_le most⟩
    · obtain ⟨least, most⟩ := Char.isDigit_iff_toNat.1 digit
      exact .inl ⟨Nat.le_trans (by decide) least, Nat.lt_succ_of_le most⟩
  · simp only [List.mem_cons, List.not_mem_nil, or_false] at listed
    rcases listed with rfl | rfl | rfl <;> decide

theorem IsMark.isBlank_eq {c : Char} (isMark : IsMark c) : Text.isBlank c = false := by
  have bounds := isMark.bounds
  simp only [Text.isBlank, Bool.or_eq_false_iff, Bool.and_eq_false_iff, decide_eq_false_iff_not,
    beq_eq_false_iff_ne]
  omega

theorem IsMark.ne_colon {c : Char} (isMark : IsMark c) : c ≠ ':' := by
  rintro rfl
  have bounds := isMark.bounds
  revert bounds
  decide

theorem isAlpha_of_toLower {c : Char} (letter : c.toLower.isAlpha = true) : c.isAlpha = true := by
  by_cases upper : c.isUpper = true
  · exact Bool.or_eq_true_iff.2 (.inl upper)
  · have same : c.toLower = c := dif_neg fun within => upper (decide_eq_true within)
    rwa [same] at letter

variable {text : List Char}

theorem marks_of_takeSign (marks : ∀ c ∈ (takeSign text).2, IsMark c) : ∀ c ∈ text, IsMark c := by
  unfold takeSign at marks
  split at marks
  · exact List.forall_mem_cons.2 ⟨.inr (by decide), marks⟩
  · exact List.forall_mem_cons.2 ⟨.inr (by decide), marks⟩
  · exact marks

theorem marks_of_digits (digits : text.all Char.isDigit = true) : ∀ c ∈ text, IsMark c :=
  fun c member => .of_isDigit (List.all_eq_true.1 digits c member)

theorem marks_of_takeDigits (marks : ∀ c ∈ (takeDigits text).2, IsMark c) :
    ∀ c ∈ text, IsMark c := by
  rw [← List.takeWhile_append_dropWhile (p := Char.isDigit) (l := text)]
  exact List.forall_mem_append.2 ⟨marks_of_digits List.all_takeWhile, marks⟩

theorem marks_of_readExponent? {exponent : Int} (read : readExponent? text = some exponent) :
    ∀ c ∈ text, IsMark c := by
  unfold readExponent? at read
  split at read
  · exact List.forall_mem_nil _
  · next mark rest =>
    split at read
    · next letter =>
      dsimp only at read
      split at read
      · cases read
      · next digits =>
        simp only [Bool.or_eq_true, Bool.not_eq_true', not_or, Bool.not_eq_false] at digits
        refine List.forall_mem_cons.2 ⟨?_, marks_of_takeSign (marks_of_digits digits.2)⟩
        rcases letter with rfl | rfl
        · exact .of_isAlpha (by decide)
        · exact .of_isAlpha (by decide)
    · cases read

theorem marks_of_ofUnsigned? {negative : Bool} {number : Decimal}
    (read : ofUnsigned? negative text = some number) : ∀ c ∈ text, IsMark c := by
  unfold ofUnsigned? at read
  apply marks_of_takeDigits
  generalize takeDigits text = parts at read
  obtain ⟨whole, rest⟩ := parts
  dsimp only at read ⊢
  -- behind the digits stands a point with further digits, or the exponent at once
  split at read
  · obtain ⟨_, read⟩ := Option.ite_none_left_eq_some.1 read
    obtain ⟨exponent, read, _⟩ := Option.map_eq_some_iff.1 read
    exact List.forall_mem_cons.2
      ⟨.inr (by decide), marks_of_takeDigits (marks_of_readExponent? read)⟩
  · obtain ⟨_, read⟩ := Option.ite_none_left_eq_some.1 read
    obtain ⟨exponent, read, _⟩ := Option.map_eq_some_iff.1 read
    exact marks_of_readExponent? read

theorem marks_of_word {word : String} (letters : word.toList.all Char.isAlpha = true)
    (spelt : text.map Char.toLower = word.toList) : ∀ c ∈ text, IsMark c := by
  intro c member
  apply IsMark.of_isAlpha
  apply isAlpha_of_toLower
  apply List.all_eq_true.1 letters
  rw [← spelt]
  exact List.mem_map_of_mem member

theorem marks_of_int32OfText? {n : Int32} (read : int32OfText? text = some n) :
    ∀ c ∈ text, IsMark c := by
  obtain ⟨size, read, _⟩ := Option.bind_eq_some_iff.1 read
  unfold intOfText? at read
  dsimp only at read
  split at read
  · cases read
  · next digits =>
    simp only [Bool.or_eq_true, Bool.not_eq_true', not_or, Bool.not_eq_false] at digits
    exact marks_of_takeSign (marks_of_digits digits.2)

theorem marks_of_ofText? {x : Binary64} (read : Binary64.ofText? text = some x) :
    ∀ c ∈ text, IsMark c := by
  unfold Binary64.ofText? at read
  apply marks_of_takeSign
  generalize takeSign text = parts at read
  obtain ⟨negative, rest⟩ := parts
  dsimp only at read
  split at read
  · next infinite =>
    rcases Bool.or_eq_true_iff.1 infinite with word | word
    · exact marks_of_word (by decide) (of_decide_eq_true word)
    · exact marks_of_word (by decide) (of_decide_eq_true word)
  · split at read
    · next word => exact marks_of_word (by decide) word
    · obtain ⟨number, read, _⟩ := Option.map_eq_some_iff.1 read
      exact marks_of_ofUnsigned? read

end Decimal

/-! ## The grammar of time tokens -/

/-- The word for an anchor. -/
def Anchor.word : Anchor → String
  | intro => "intro"
  | start => "start"
  | finish => "end"
  | between => "at"

/-- An anchor is spelt by its word in any case, with no blanks around it. -/
def Anchor.SpeltBy (anchor : Anchor) (text : List Char) : Prop :=
  text.map Char.toLower = anchor.word.toList

/-- A note is referred to by the placeholder, written exactly, or by its id with blanks around
it. -/
inductive NoteReference.SpeltBy : NoteReference → List Char → Prop
  | placeholder : SpeltBy .placeholder "$note".toList
  | id {id : NoteId} {digits text : List Char} (read : int32OfText? digits = some id)
      (padded : Text.Padded digits text) : SpeltBy (.id id) text

/-- A token is spelt by an anchor and a note, or by an anchor, a note and an offset with blanks
around it, with colons between them. -/
inductive TimeToken.SpeltBy : TimeToken → List Char → Prop
  | short {anchor : Anchor} {note : NoteReference} {front back : List Char}
      (anchored : anchor.SpeltBy front) (refers : note.SpeltBy back) :
      SpeltBy ⟨anchor, note, .zero false⟩ (front ++ ':' :: back)
  | long {anchor : Anchor} {note : NoteReference} {offset : Binary64}
      {front middle number back : List Char} (anchored : anchor.SpeltBy front)
      (refers : note.SpeltBy middle) (read : Binary64.ofText? number = some offset)
      (padded : Text.Padded number back) :
      SpeltBy ⟨anchor, note, offset⟩ (front ++ ':' :: (middle ++ ':' :: back))

theorem Anchor.ofText?_eq_some_iff {text : List Char} {anchor : Anchor} :
    ofText? text = some anchor ↔ anchor.SpeltBy text := by
  unfold SpeltBy ofText?
  constructor
  · intro read
    dsimp only at read
    split at read
    · next spelt => cases read; exact spelt
    · split at read
      · next spelt => cases read; exact spelt
      · split at read
        · next spelt => cases read; exact spelt
        · split at read
          · next spelt => cases read; exact spelt
          · cases read
  · intro spelt
    rw [spelt]
    cases anchor <;> rfl

theorem Anchor.SpeltBy.no_colon {anchor : Anchor} {text : List Char}
    (spelt : anchor.SpeltBy text) : ':' ∉ text := by
  have letters : anchor.word.toList.all Char.isAlpha = true := by cases anchor <;> decide
  exact fun member => (Decimal.marks_of_word letters spelt _ member).ne_colon rfl

theorem Text.Padded.no_colon {core text : List Char} (padded : Padded core text)
    (marks : ∀ c ∈ core, Decimal.IsMark c) : ':' ∉ text := by
  obtain ⟨before, behind⟩ := padded
  simp only [List.mem_append, not_or]
  have solid : ¬ isBlank ':' = true := by decide
  exact ⟨fun member => solid (before _ member), fun member => (marks _ member).ne_colon rfl,
    fun member => solid (behind _ member)⟩

theorem NoteReference.ofText?_eq_some_iff {text : List Char} {note : NoteReference} :
    ofText? text = some note ↔ note.SpeltBy text := by
  unfold ofText?
  constructor
  · intro read
    split at read
    · next word =>
      cases read
      rw [word]
      exact .placeholder
    · obtain ⟨id, digits, rfl⟩ := Option.map_eq_some_iff.1 read
      exact .id digits (Text.padded_trim text)
  · intro spelt
    cases spelt with
    | placeholder => rfl
    | id read padded =>
      have trimmed := Text.trim_of_padded padded fun c member =>
        (Decimal.marks_of_int32OfText? read c member).isBlank_eq
      -- the word itself is no number, so the text is not the placeholder
      have differs : text ≠ Placeholder.word := by
        rintro rfl
        have none : int32OfText? (Text.trim Placeholder.word) = none := by decide
        rw [← trimmed, none] at read
        cases read
      rw [if_neg differs, trimmed, read, Option.map_some]

theorem NoteReference.SpeltBy.no_colon {note : NoteReference} {text : List Char}
    (spelt : note.SpeltBy text) : ':' ∉ text := by
  cases spelt with
  | placeholder => decide
  | id read padded => exact padded.no_colon (Decimal.marks_of_int32OfText? read)

namespace TimeToken

variable {text : String} {token : TimeToken}

theorem ofText?_eq_some_iff : ofText? text = some token ↔ token.SpeltBy text.toList := by
  constructor
  · intro read
    rw [ofText?] at read
    rw [← Text.intercalate_pieces ':' text.toList]
    split at read
    · next front back pieces =>
      rw [pieces]
      obtain ⟨anchor, anchored, read⟩ := Option.bind_eq_some_iff.1 read
      obtain ⟨note, refers, same⟩ := Option.bind_eq_some_iff.1 read
      cases same
      have spelt := SpeltBy.short (Anchor.ofText?_eq_some_iff.1 anchored)
        (NoteReference.ofText?_eq_some_iff.1 refers)
      simpa using spelt
    · next front middle back pieces =>
      rw [pieces]
      obtain ⟨anchor, anchored, read⟩ := Option.bind_eq_some_iff.1 read
      obtain ⟨offset, number, read⟩ := Option.bind_eq_some_iff.1 read
      obtain ⟨note, refers, same⟩ := Option.bind_eq_some_iff.1 read
      cases same
      have spelt := SpeltBy.long (Anchor.ofText?_eq_some_iff.1 anchored)
        (NoteReference.ofText?_eq_some_iff.1 refers) number (Text.padded_trim back)
      simpa using spelt
    · cases read
  · intro spelt
    generalize whole : text.toList = letters at spelt
    cases spelt with
    | @short anchor note front back anchored refers =>
      have apart : ∀ piece ∈ [front, back], ':' ∉ piece := by
        simpa using ⟨anchored.no_colon, refers.no_colon⟩
      have pieces : Text.pieces ':' text.toList = [front, back] := by
        rw [whole, ← Text.pieces_intercalate ':' apart (List.cons_ne_nil _ _)]
        simp
      rw [ofText?, pieces]
      simp only [Anchor.ofText?_eq_some_iff.2 anchored, NoteReference.ofText?_eq_some_iff.2 refers]
      rfl
    | @long anchor note offset front middle number back anchored refers read padded =>
      have marks := Decimal.marks_of_ofText? read
      have trimmed := Text.trim_of_padded padded fun c member => (marks c member).isBlank_eq
      have apart : ∀ piece ∈ [front, middle, back], ':' ∉ piece := by
        simpa using ⟨anchored.no_colon, refers.no_colon, padded.no_colon marks⟩
      have pieces : Text.pieces ':' text.toList = [front, middle, back] := by
        rw [whole, ← Text.pieces_intercalate ':' apart (List.cons_ne_nil _ _)]
        simp
      rw [ofText?, pieces]
      simp only [trimmed, read, Anchor.ofText?_eq_some_iff.2 anchored,
        NoteReference.ofText?_eq_some_iff.2 refers]
      rfl

end TimeToken

/-! ## Integers of documents -/

theorem roundHalfEven_le (num den : Nat) : roundHalfEven num den ≤ num / den + 1 := by
  unfold roundHalfEven
  dsimp only
  split
  · omega
  · split
    · omega
    · omega

namespace Binary64

/-- A number of few enough bits does not come near the largest magnitude. -/
theorem magnitudeOfRatio_lt {num bits : Nat} (small : num < Nat.pow 2 bits)
    (few : bits ≤ 2000) : magnitudeOfRatio num 1 < infinityMagnitude := by
  unfold magnitudeOfRatio
  generalize position : (num / 1).log2 - 52 = shift
  rw [Nat.div_one] at position
  have low : num.log2 ≤ bits := by
    by_cases zero : num = 0
    · rw [zero]
      exact Nat.zero_le bits
    · exact Nat.le_of_lt ((Nat.log2_lt zero).2 small)
  -- the leading 53 bits are left once the number is shifted
  have below : num < 2 ^ 53 * 2 ^ shift := by
    refine Nat.lt_of_lt_of_le Nat.lt_log2_self ?_
    rw [← Nat.pow_add]
    exact Nat.pow_le_pow_right (by decide) (by omega)
  have quotient : num / (1 * Nat.pow 2 shift) < 2 ^ 53 := by
    rw [Nat.one_mul, Nat.pow_eq, Nat.div_lt_iff_lt_mul (Nat.two_pow_pos shift)]
    exact below
  have rounded := roundHalfEven_le num (1 * Nat.pow 2 shift)
  simp only [infinityMagnitude]
  omega

theorem isFinite_ofRatio {negative : Bool} {num den : Nat}
    (below : magnitudeOfRatio num den < infinityMagnitude) :
    (ofRatio negative num den).isFinite = true :=
  decide_eq_true below

theorem isFinite_ofInt {n : Int} (small : n.natAbs < 0x20000000000000000) :
    (ofInt n).isFinite = true := by
  -- under a name, the scale of the units is not computed
  obtain ⟨scale, named, few⟩ : ∃ scale, scale = 1074 ∧ 65 + scale ≤ 2000 := ⟨1074, rfl, by decide⟩
  have units : n.natAbs * Nat.pow 2 scale < Nat.pow 2 (65 + scale) := by
    rw [Nat.pow_eq, Nat.pow_eq, Nat.pow_add]
    exact Nat.mul_lt_mul_of_pos_right small (Nat.two_pow_pos scale)
  rw [ofInt, ← named]
  exact isFinite_ofRatio (magnitudeOfRatio_lt units few)

end Binary64

/-! ## Resolving times -/

namespace Json

/-- An integer of a document fits 64 bits; a larger number is a real one. -/
def InDocument (value : Json) : Prop :=
  ∀ n, value = .int n → -0x8000000000000000 ≤ n ∧ n < 0x10000000000000000

theorem real?_int {n : Int} (inDocument : (Json.int n).InDocument) :
    (Json.int n).real?.map Finite64.toBinary = some (Binary64.ofInt n) := by
  obtain ⟨low, high⟩ := inDocument n rfl
  have finite : (Binary64.ofInt n).isFinite = true := Binary64.isFinite_ofInt (by omega)
  rw [real?, Finite64.ofBinary?, dif_pos finite]
  rfl

end Json

/-- What a reference to a note comes to: the placeholder stands for the note of the declaration, or
else for the note that is bound. -/
inductive NoteReference.Names (own : Option NoteId) (binding : Binding) :
    NoteReference → NoteId → Prop
  | own {id : NoteId} (carries : own = some id) : Names own binding .placeholder id
  | bound {id : NoteId} (noteless : own = none) (given : binding = some id) :
    Names own binding .placeholder id
  | id (id : NoteId) : Names own binding (.id id) id

namespace WrittenTime

/-- What a field value comes to as a time. -/
inductive Resolves (chart : Chart) (own : Option NoteId) (binding : Binding) :
    Option Json → Except Fault (Option Binary64) → Prop
  | absent : Resolves chart own binding none (.ok none)
  | null : Resolves chart own binding (some .null) (.ok none)
  | bool (b : Bool) : Resolves chart own binding (some (.bool b)) (.ok none)
  | arr (items : List Json) : Resolves chart own binding (some (.arr items)) (.ok none)
  | obj (fields : List (String × Json)) : Resolves chart own binding (some (.obj fields)) (.ok none)
  | real (x : Finite64) : Resolves chart own binding (some (.real x)) (.ok (some x.val))
  | int (n : Int) : Resolves chart own binding (some (.int n)) (.ok (some (Binary64.ofInt n)))
  | malformed {text : String} (other : ∀ token : TimeToken, ¬ token.SpeltBy text.toList) :
    Resolves chart own binding (some (.str text)) (.ok none)
  | unbound {text : String} {token : TimeToken} (spelt : token.SpeltBy text.toList)
      (refers : token.note = .placeholder) (noteless : own = none) (free : binding = none) :
    Resolves chart own binding (some (.str text)) (.error ((Fault.of .unboundNote).within text))
  | unknown {text : String} {token : TimeToken} {id : NoteId} (spelt : token.SpeltBy text.toList)
      (names : token.note.Names own binding id) (missing : chart.note? id = none) :
    Resolves chart own binding (some (.str text))
      (.error ((Fault.of (.unknownNote id)).within text))
  | known {text : String} {token : TimeToken} {id : NoteId} {note : Note}
      (spelt : token.SpeltBy text.toList) (names : token.note.Names own binding id)
      (found : chart.note? id = some note) :
    Resolves chart own binding (some (.str text))
      (.ok (some (token.anchor.time note token.offset)))

end WrittenTime

variable {chart : Chart} {own : Option NoteId} {binding : Binding}

namespace TimeToken

variable {token : TimeToken}

theorem noteId_eq_ok_iff {id : NoteId} :
    token.noteId binding own = .ok id ↔ token.note.Names own binding id := by
  obtain ⟨anchor, note, offset⟩ := token
  cases note with
  | id other =>
    constructor
    · intro used
      cases used
      exact .id id
    · intro names
      cases names
      rfl
  | placeholder =>
    constructor
    · intro used
      cases own with
      | some own =>
        cases used
        exact .own rfl
      | none =>
        cases binding with
        | some bound =>
          cases used
          exact .bound rfl rfl
        | none => cases used
    · intro names
      cases names with
      | own carries => rw [carries]; rfl
      | bound noteless given => rw [noteless, given]; rfl

theorem noteId_eq_error_iff {fault : Fault} :
    token.noteId binding own = .error fault ↔
      token.note = .placeholder ∧ own = none ∧ binding = none ∧ fault = .of .unboundNote := by
  obtain ⟨anchor, note, offset⟩ := token
  constructor
  · intro failed
    cases note with
    | id other => cases failed
    | placeholder =>
      cases own with
      | some own => cases failed
      | none =>
        cases binding with
        | some bound => cases failed
        | none =>
          cases failed
          exact ⟨rfl, rfl, rfl, rfl⟩
  · rintro ⟨⟨⟩, rfl, rfl, rfl⟩
    rfl

end TimeToken

namespace WrittenTime

variable {value : Option Json} {result : Except Fault (Option Binary64)}

theorem resolves_of_token {text : String} {token : TimeToken}
    (read : TimeToken.ofText? text = some token) :
    Resolves chart own binding (some (.str text))
      (resolve chart binding own (some (.str text))) := by
  have spelt := TimeToken.ofText?_eq_some_iff.1 read
  rw [resolve, read]
  dsimp only
  rw [TimeToken.resolve]
  cases used : token.noteId binding own with
  | error fault =>
    obtain ⟨refers, noteless, free, rfl⟩ := TimeToken.noteId_eq_error_iff.1 used
    exact .unbound spelt refers noteless free
  | ok id =>
    have names := TimeToken.noteId_eq_ok_iff.1 used
    rw [Result.ok_bind]
    cases found : chart.note? id with
    | none => exact .unknown spelt names found
    | some note => exact .known spelt names found

theorem resolves_resolve (inDocument : ∀ given, value = some given → given.InDocument) :
    Resolves chart own binding value (resolve chart binding own value) := by
  cases value with
  | none => exact .absent
  | some given =>
    cases given with
    | null => exact .null
    | bool b => exact .bool b
    | arr items => exact .arr items
    | obj fields => exact .obj fields
    | real x => exact .real x
    | int n =>
      rw [resolve, Json.real?_int (inDocument _ rfl)]
      · exact .int n
      · nofun
    | str text =>
      cases read : TimeToken.ofText? text with
      | none =>
        rw [resolve, read]
        refine .malformed fun token spelt => ?_
        rw [TimeToken.ofText?_eq_some_iff.2 spelt] at read
        cases read
      | some token => exact resolves_of_token read

theorem Resolves.eq (resolves : Resolves chart own binding value result)
    (inDocument : ∀ given, value = some given → given.InDocument) :
    resolve chart binding own value = result := by
  cases resolves with
  | absent | null | bool | arr | obj | real => rfl
  | int n =>
    rw [resolve, Json.real?_int (inDocument _ rfl)]
    nofun
  | @malformed text other =>
    cases read : TimeToken.ofText? text with
    | none => rw [resolve, read]
    | some token => exact absurd (TimeToken.ofText?_eq_some_iff.1 read) (other token)
  | unbound spelt refers noteless free =>
    have used := TimeToken.noteId_eq_error_iff.2 ⟨refers, noteless, free, rfl⟩
    simp only [resolve, TimeToken.ofText?_eq_some_iff.2 spelt, TimeToken.resolve, used,
      Result.error_bind]
  | unknown spelt names missing =>
    simp only [resolve, TimeToken.ofText?_eq_some_iff.2 spelt, TimeToken.resolve,
      TimeToken.noteId_eq_ok_iff.2 names, Result.ok_bind, missing]
  | known spelt names found =>
    simp only [resolve, TimeToken.ofText?_eq_some_iff.2 spelt, TimeToken.resolve,
      TimeToken.noteId_eq_ok_iff.2 names, Result.ok_bind, found]

theorem bindingAfter_of_spelt {text : String} {token : TimeToken} {id : NoteId}
    (spelt : token.SpeltBy text.toList) (refers : token.note = .placeholder)
    (carries : own = some id) : bindingAfter binding own (some (.str text)) = some id := by
  obtain ⟨anchor, note, offset⟩ := token
  cases refers
  rw [bindingAfter, TimeToken.ofText?_eq_some_iff.2 spelt, carries]
  rfl

theorem exists_spelt_of_bindingAfter (changed : bindingAfter binding own value ≠ binding) :
    ∃ text token id, value = some (.str text) ∧ TimeToken.SpeltBy token text.toList ∧
      token.note = .placeholder ∧ own = some id := by
  unfold bindingAfter at changed
  split at changed
  · next text =>
    split at changed
    · next anchor offset read =>
      have spelt := TimeToken.ofText?_eq_some_iff.1 read
      -- without a note of its own, the placeholder stands for what is bound already
      cases own with
      | some id => exact ⟨text, _, id, rfl, spelt, rfl, rfl⟩
      | none => exact absurd rfl changed
    · exact absurd rfl changed
  · exact absurd rfl changed

/-- **How times are resolved.** A field value of a document comes to a time, to no time or to a
fault exactly as the rules of `Resolves` say: a number to itself, a token that the grammar derives
to the moment of a note that the chart knows, and everything else to no time. The only faults are a
placeholder that nothing stands for and a note that the chart does not know. A token with the
placeholder binds the note of its declaration, whether or not the chart knows it, and nothing else
changes what is bound. -/
theorem resolve_law (chart : Chart) (own : Option NoteId) (binding : Binding) {value : Option Json}
    (inDocument : ∀ given, value = some given → given.InDocument) :
    (∀ result, resolve chart binding own value = result ↔
      Resolves chart own binding value result) ∧
    (∀ text token id, value = some (.str text) → TimeToken.SpeltBy token text.toList →
      token.note = .placeholder → own = some id → bindingAfter binding own value = some id) ∧
    (bindingAfter binding own value ≠ binding →
      ∃ text token id, value = some (.str text) ∧ TimeToken.SpeltBy token text.toList ∧
        token.note = .placeholder ∧ own = some id) := by
  refine ⟨fun result => ⟨?_, fun resolves => resolves.eq inDocument⟩, ?_, ?_⟩
  · rintro rfl
    exact resolves_resolve inDocument
  · rintro text token id rfl spelt refers carries
    exact bindingAfter_of_spelt spelt refers carries
  · exact exists_spelt_of_bindingAfter

/-! A quarter of the way through a note, in mixed case and with blanks around the offset, for a
declaration with a note of its own below one with another; and a text that is a token but for its
offset. -/

def quarterChart : Chart where
  notes := [⟨7, 0, .zero false, 0, .ofInt 1, .ofInt 2, .ofInt 6⟩]
  sorted := List.pairwise_singleton ..

def quarterToken : TimeToken :=
  ⟨.between, .placeholder, Decimal.toBinary ⟨false, [], "25".toList, 0⟩⟩

theorem resolve_law_quarter :
    (∀ given, some (Json.str "At:$note: .25 ") = some given → given.InDocument) ∧
    quarterToken.SpeltBy "At:$note: .25 ".toList ∧
    Resolves quarterChart (some 7) (some 9) (some (.str "At:$note: .25 "))
      (.ok (some (.ofInt 3))) ∧
    bindingAfter (some 9) (some 7) (some (.str "At:$note: .25 ")) = some 7 ∧
    Resolves quarterChart none none (some (.str "at:$note: .25x")) (.ok none) := by
  have text (text : String) : ∀ given, some (Json.str text) = some given → given.InDocument := by
    rintro _ ⟨⟩
    nofun
  have spelt : quarterToken.SpeltBy "At:$note: .25 ".toList :=
    TimeToken.ofText?_eq_some_iff.1 (by decide +kernel)
  have law := resolve_law quarterChart (some 7) (some 9) (text "At:$note: .25 ")
  have bad := resolve_law quarterChart none none (text "at:$note: .25x")
  refine ⟨text _, spelt, (law.1 _).1 ?_, law.2.1 _ _ _ rfl spelt rfl rfl, (bad.1 _).1 ?_⟩
  · exact Result.eq_ok_of_toOption (by decide +kernel)
  · exact Result.eq_ok_of_toOption (by decide +kernel)

end WrittenTime
end Storyboard
