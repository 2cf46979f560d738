import Storyboard.Proofs.Descent
import Storyboard.Proofs.Lineage

/-!
# Templates that do not nest into themselves

A template is nested in another one if the declarations that the other one gives, read as they are
written and without any merging, refer to it somewhere. Making the states of an object goes down
along nested declarations, and each step down either stays in the tree that it is in, where it is
lower than before, or enters the tree of a template that is referred to there. So where no template
is nested in itself, however indirectly, the way down is no longer than the declaration and all
templates are deep, no outline is cut off, and making the states comes to its end.

Main statement: `Timeline.build_ends`.
-/
namespace Storyboard

open Relation (TransGen ReflTransGen)

variable {chart : Chart} {templates : Templates}

/-! ## Trees as they are written -/

namespace Node

variable {node other element : Node} {id : String}

theorem Holds.congr (holds : node.Holds element)
    (same : Keyed.get? node "states" = Keyed.get? other "states") : other.Holds element := by
  obtain ⟨items, given, listed⟩ := holds
  exact ⟨items, same ▸ given, listed⟩

theorem nestedDepth_lt_of_transGen (inside : TransGen Holds node element) :
    element.nestedDepth < node.nestedDepth := by
  induction inside with
  | single holds => exact holds.nestedDepth_lt
  | tail _ holds ih => exact Nat.lt_trans holds.nestedDepth_lt ih

/-- Somewhere in the tree of the declarations nested in one, as they are written, there is a
reference to a template. -/
def Mentions (node : Node) (id : String) : Prop :=
  ∃ element, TransGen Holds node element ∧ Keyed.get? element "template" = some (.str id)

/-- A tree mentions what its declarations refer to themselves, and what their trees mention. -/
theorem mentions_iff : node.Mentions id ↔
    ∃ element, node.Holds element ∧
      (Keyed.get? element "template" = some (.str id) ∨ element.Mentions id) := by
  constructor
  · rintro ⟨lower, inside, refers⟩
    rcases TransGen.head'_iff.1 inside with ⟨element, holds, further⟩
    rcases Relation.reflTransGen_iff_eq_or_transGen.1 further with rfl | deeper
    · exact ⟨lower, holds, .inl refers⟩
    · exact ⟨element, holds, .inr ⟨lower, deeper, refers⟩⟩
  · rintro ⟨element, holds, refers | ⟨lower, deeper, refers⟩⟩
    · exact ⟨element, .single holds, refers⟩
    · exact ⟨lower, .head holds deeper, refers⟩

theorem not_mentions_of_bare (bare : Keyed.get? node "states" = none) : ¬ node.Mentions id := by
  rw [mentions_iff]
  rintro ⟨element, ⟨items, given, listed⟩, refers⟩
  cases bare.symm.trans given

/-- A tree with one declaration at its first level. -/
theorem mentions_single_iff (given : Keyed.get? node "states" = some (.arr [.obj element])) :
    node.Mentions id ↔
      Keyed.get? element "template" = some (.str id) ∨ element.Mentions id := by
  rw [mentions_iff]
  constructor
  · rintro ⟨other, ⟨items, found, listed⟩, refers⟩
    cases found.symm.trans given
    have same : other = element := by simpa using listed
    exact same ▸ refers
  · intro refers
    exact ⟨element, ⟨_, given, List.mem_cons_self ..⟩, refers⟩

theorem Mentions.congr (mentions : node.Mentions id)
    (same : Keyed.get? node "states" = Keyed.get? other "states") : other.Mentions id := by
  rw [mentions_iff] at mentions ⊢
  obtain ⟨element, holds, refers⟩ := mentions
  exact ⟨element, holds.congr same, refers⟩

theorem Mentions.of_inside (mentions : element.Mentions id)
    (inside : ReflTransGen Holds node element) : node.Mentions id := by
  obtain ⟨lower, further, refers⟩ := mentions
  exact ⟨lower, TransGen.trans_right inside further, refers⟩

end Node

namespace Templates

/-- A template is nested in another one if it is referred to in the tree of the declaration that
does nothing but refer to the other one. -/
def Nests (templates : Templates) (outer inner : String) : Prop :=
  ∃ merged, templates.complete (referring (.str outer)) = .ok merged ∧ merged.Mentions inner

/-- Where declarations are written: in the declaration of an object, or in what a template gives. -/
def source (templates : Templates) (root : Node) : Option String → Except Fault Node
  | none => .ok root
  | some id => templates.complete (referring (.str id))

/-- What is nested in a declaration is written at some level of a source. -/
def Stands (templates : Templates) (root : Node) (origin : Option String) (node : Node) : Prop :=
  ∃ top element, templates.source root origin = .ok top ∧ ReflTransGen Node.Holds top element ∧
    Keyed.get? node "states" = Keyed.get? element "states"

/-- A template is referred to in the tree of a source: in that of the object, or else it is nested
in the template that is the source. -/
def Reaches (templates : Templates) (root : Node) : Option String → String → Prop
  | none, id => root.Mentions id
  | some outer, id => templates.Nests outer id

theorem reaches_of_mentions {root top : Node} {origin : Option String} {id : String}
    (begins : templates.source root origin = .ok top) (mentions : top.Mentions id) :
    templates.Reaches root origin id := by
  cases origin with
  | none =>
    cases begins
    exact mentions
  | some outer => exact ⟨top, begins, mentions⟩

/-- What is nested in a declaration that is laid over its templates is its own, or else what its
reference alone would give. -/
theorem states_of_complete {variant child : Node}
    (merged : templates.complete variant = .ok child) :
    Keyed.get? child "states" = Keyed.get? variant "states" ∨
      ∃ id top, Keyed.get? variant "template" = some (.str id) ∧
        templates.complete (referring (.str id)) = .ok top ∧
        Keyed.get? child "states" = Keyed.get? top "states" := by
  obtain ⟨fragments, lineage⟩ := exists_complete_iff.1 ⟨child, merged⟩
  have nearest := get?_complete merged lineage (show "states" ≠ "template" by decide)
  rw [List.findSome?_cons] at nearest
  cases own : Keyed.get? variant "states" with
  | some value =>
    rw [own] at nearest
    exact .inl nearest
  | none =>
    simp only [own] at nearest
    obtain ⟨way, last, leads, ends, rfl⟩ := lineage
    cases way with
    | nil => exact .inl nearest
    | cons entry way =>
      obtain ⟨id, fragment⟩ := entry
      have refers : Keyed.get? variant "template" = some (.str id) := by
        generalize Keyed.get? variant "template" = reference at leads
        cases leads
        rfl
      -- the reference by itself leads along the same way
      have alone : IsLineage templates (referring (.str id))
          (((id, fragment) :: way).map Prod.snd) := by
        rw [refers] at leads
        exact ⟨_, last, leads, ends, rfl⟩
      obtain ⟨top, done⟩ := exists_complete_iff.2 ⟨_, alone⟩
      refine .inr ⟨id, top, refers, done, ?_⟩
      rw [nearest, get?_complete done alone (by decide)]
      rfl

end Templates

open Templates (referring Stands Reaches)

namespace Outline.Below

variable {root node child : Node} {origin : Option String}

/-- What is nested in a declaration below another one is written immediately below, or it is given
by a template that is referred to there. -/
theorem cases_states (below : Below chart templates node child) :
    ∃ element, node.Holds element ∧
      (Keyed.get? child "states" = Keyed.get? element "states" ∨
        ∃ id top, Keyed.get? element "template" = some (.str id) ∧
          templates.complete (referring (.str id)) = .ok top ∧
          Keyed.get? child "states" = Keyed.get? top "states") := by
  obtain ⟨variants, variant, unfolded, member, merged⟩ := below
  obtain ⟨element, holds, kept⟩ := exists_holds_of_mem_children unfolded member
  have states := kept "states" (by decide)
  have reference := kept "template" (by decide)
  refine ⟨element, holds, ?_⟩
  rw [← states, ← reference]
  exact Templates.states_of_complete merged

/-- A step down stays in the tree that it is in, one level lower, or enters the tree of a template
that is referred to there. -/
theorem stands (below : Below chart templates node child)
    (above : Stands templates root origin node) :
    (Stands templates root origin child ∧
      ∃ element, node.Holds element ∧ Keyed.get? child "states" = Keyed.get? element "states") ∨
    ∃ id, Stands templates root (some id) child ∧ Reaches templates root origin id := by
  obtain ⟨element, holds, states⟩ := below.cases_states
  obtain ⟨top, level, begins, inside, same⟩ := above
  have deeper : TransGen Node.Holds top element :=
    TransGen.tail'_iff.2 ⟨level, inside, holds.congr same⟩
  rcases states with own | ⟨id, entered, refers, done, given⟩
  · exact .inl ⟨⟨top, element, begins, deeper.to_reflTransGen, own⟩, element, holds, own⟩
  · have mentions : top.Mentions id := ⟨element, deeper, refers⟩
    exact .inr ⟨id, ⟨entered, entered, done, .refl, given⟩,
      Templates.reaches_of_mentions begins mentions⟩

/-- On the way down from a declaration one comes deeper into its own tree, or by way of a template
that it refers to into one that is nested there. -/
theorem cases_of_transGen {first last : Node}
    (path : TransGen (Below chart templates) first last) :
    (∃ element, TransGen Node.Holds first element ∧
      Keyed.get? last "states" = Keyed.get? element "states") ∨
    ∃ outer inner, first.Mentions outer ∧ ReflTransGen templates.Nests outer inner ∧
      Stands templates first (some inner) last := by
  have start : Stands templates first none first := ⟨first, first, rfl, .refl, rfl⟩
  induction path with
  | single below =>
    -- the first step stays in the tree or enters a template that the tree refers to
    rcases below.stands start with ⟨_, element, holds, same⟩ | ⟨id, entered, refers⟩
    · exact .inl ⟨element, .single holds, same⟩
    · exact .inr ⟨id, id, refers, .refl, entered⟩
  | @tail between _ _ below ih =>
    rcases ih with ⟨element, inside, same⟩ | ⟨outer, inner, refers, along, stands⟩
    · have still : Stands templates first none between :=
        ⟨first, element, rfl, inside.to_reflTransGen, same⟩
      rcases below.stands still with ⟨_, lower, holds, equal⟩ | ⟨id, entered, refers⟩
      · exact .inl ⟨lower, .tail inside (holds.congr same), equal⟩
      · exact .inr ⟨id, id, refers, .refl, entered⟩
    · -- in the tree of a template, the next one that is entered is nested in it
      rcases below.stands stands with ⟨stays, _⟩ | ⟨id, entered, nests⟩
      · exact .inr ⟨outer, inner, refers, along, stays⟩
      · exact .inr ⟨outer, id, refers, along.tail nests, entered⟩

/-- A way down that comes back to the same nested declarations shows a template that is nested in
itself. -/
theorem exists_nests_of_loop {first again : Node}
    (loop : TransGen (Below chart templates) first again)
    (around : Keyed.get? first "states" = Keyed.get? again "states") :
    ∃ id, TransGen templates.Nests id id := by
  rcases cases_of_transGen loop with ⟨element, inside, same⟩ |
    ⟨outer, inner, refers, along, top, element, begins, inside, same⟩
  · -- a tree is deeper than anything in it
    have lower := Node.nestedDepth_lt_of_transGen inside
    rw [Node.nestedDepth_congr (around.trans same)] at lower
    exact absurd lower (Nat.lt_irrefl _)
  · -- what the first declaration refers to is referred to again in the last tree
    have closes : templates.Nests inner outer :=
      ⟨top, begins, (refers.congr (around.trans same)).of_inside inside⟩
    exact ⟨inner, TransGen.head'_iff.2 ⟨outer, closes, along⟩⟩

variable {path : List Node}

/-- Where no template is nested in itself, the way down is no longer than the declaration and all
templates are deep. -/
theorem length_lt_levels (acyclic : ∀ id, ¬ TransGen templates.Nests id id)
    (chain : (root :: path).IsChain (Below chart templates)) :
    path.length < levels templates root := by
  by_contra far
  obtain ⟨first, again, _, loop, around⟩ :=
    exists_loop id (fun _ _ below => below) chain (Nat.le_of_not_lt far)
  obtain ⟨id, cycle⟩ := exists_nests_of_loop loop around
  exact acyclic id cycle

end Outline.Below

/-! ## Outlines with enough room -/

namespace Outline

variable {node : Node} {levels more : Nat}

theorem siblings_congr {below other : Node → Outline} {variants : List Node}
    (same : ∀ variant ∈ variants, ∀ node, templates.complete variant = .ok node →
      below node = other node) :
    siblings templates below variants = siblings templates other variants := by
  induction variants with
  | nil => rfl
  | cons variant rest ih =>
    have others := ih fun later member => same later (List.mem_cons_of_mem _ member)
    cases merged : templates.complete variant with
    | error fault => simp only [siblings, merged]
    | ok node =>
      have own := same variant (List.mem_cons_self ..) node merged
      simp only [siblings, merged, own, others]

/-- No way down from a declaration takes as many steps as there are levels. -/
def Bounded (chart : Chart) (templates : Templates) (levels : Nat) (node : Node) : Prop :=
  ∀ path, (node :: path).IsChain (Below chart templates) → path.length < levels

theorem Bounded.below {child : Node} (bounded : Bounded chart templates (levels + 1) node)
    (below : Below chart templates node child) : Bounded chart templates levels child := by
  intro path chain
  have longer := bounded (child :: path) (.cons_cons below chain)
  rw [List.length_cons] at longer
  omega

/-- More room than there are steps down changes nothing. -/
theorem nested_of_bounded (bounded : Bounded chart templates levels node)
    (enough : levels ≤ more) :
    nested chart templates more node = nested chart templates levels node := by
  induction levels generalizing node more with
  | zero => exact absurd (bounded [] (.singleton node)) (Nat.not_lt_zero _)
  | succ levels ih =>
    obtain ⟨room, rfl⟩ := Nat.exists_eq_add_of_le' enough
    cases unfolded : children chart node with
    | error fault => rw [nested_of_error unfolded, nested_of_error unfolded]
    | ok variants =>
      -- one level of the room goes to the declaration itself, and the rest to those below it
      rw [← Nat.add_assoc, nested_succ_of_ok unfolded, nested_succ_of_ok unfolded]
      apply siblings_congr
      intro variant member child merged
      exact ih (bounded.below ⟨variants, variant, unfolded, member, merged⟩) (by omega)

/-- With more room than there are steps down, an outline breaks off with a fault only. -/
theorem ne_endless_of_bounded (bounded : Bounded chart templates levels node) {stop : Stop Fault}
    (member : .error stop ∈ (nested chart templates levels node).steps) : stop ≠ .endless := by
  induction levels generalizing node stop with
  | zero => exact absurd (bounded [] (.singleton node)) (Nat.not_lt_zero _)
  | succ levels ih =>
    cases unfolded : children chart node with
    | error fault =>
      rw [nested_of_error unfolded, mem_steps_broken] at member
      exact member ▸ nofun
    | ok variants =>
      rw [nested_succ_of_ok unfolded] at member
      apply allowed_of_siblings (fun _ _ => nofun) _ member
      intro variant listed child merged stop inside
      exact ih (bounded.below ⟨variants, variant, unfolded, listed, merged⟩) inside

end Outline

namespace Timeline

open Outline

/-- Where no template is nested in itself, making the states of a declaration comes to its end. -/
theorem build_ne_endless (acyclic : ∀ id, ¬ TransGen templates.Nests id id) (category : Category)
    (chart : Chart) (binding : Binding) (root : Node) :
    build category chart templates binding root ≠ .error .endless := by
  have bounded : Bounded chart templates (levels templates root) root :=
    fun path chain => Below.length_lt_levels acyclic chain
  intro built
  rcases cases_of_build_error built with inside | ⟨reached, node, now⟩
  · exact ne_endless_of_bounded bounded inside rfl
  · exact passNode_ends reached node _ now rfl

/-- **Nesting that ends.** Where no template is nested in itself, however indirectly, making the
states of a declaration comes to its end. Whatever is nested stands in the tree of the declaration
or in that of a template; a step down stays in that tree, one level lower, or enters the tree of a
template that is referred to there. So no way down takes as many steps as the declaration and all
templates are deep. An outline with room for that many levels does not run out of it, more room
leaves it as it is, and building the states gives a result or a fault of the document. -/
theorem build_ends (acyclic : ∀ id, ¬ TransGen templates.Nests id id) (category : Category)
    (chart : Chart) (binding : Binding) (root : Node) :
    (∀ node, ReflTransGen (Below chart templates) root node →
      ∃ origin, Stands templates root origin node) ∧
    (∀ origin node child, Stands templates root origin node → Below chart templates node child →
      (Stands templates root origin child ∧
        ∃ element, node.Holds element ∧ Keyed.get? child "states" = Keyed.get? element "states") ∨
      ∃ id, Stands templates root (some id) child ∧ Reaches templates root origin id) ∧
    Bounded chart templates (levels templates root) root ∧
    (∀ stop, .error stop ∈ (ofNode chart templates root).steps → stop ≠ .endless) ∧
    (∀ more, levels templates root ≤ more →
      nested chart templates more root = ofNode chart templates root) ∧
    ((∃ states after, build category chart templates binding root = .ok (states, after)) ∨
      ∃ fault, build category chart templates binding root = .error (.failed fault)) := by
  have bounded : Bounded chart templates (levels templates root) root :=
    fun path chain => Below.length_lt_levels acyclic chain
  refine ⟨?_, fun _ _ _ above below => below.stands above, bounded,
    fun _ member => ne_endless_of_bounded bounded member,
    fun _ enough => nested_of_bounded bounded enough, ?_⟩
  · intro node way
    induction way with
    | refl => exact ⟨none, root, root, rfl, .refl, rfl⟩
    | tail _ below ih =>
      obtain ⟨origin, above⟩ := ih
      rcases below.stands above with ⟨stays, _⟩ | ⟨id, entered, _⟩
      · exact ⟨origin, stays⟩
      · exact ⟨some id, entered⟩
  · cases built : build category chart templates binding root with
    | ok made => exact .inl ⟨made.1, made.2, rfl⟩
    | error stop =>
      cases stop with
      | endless => exact absurd built (build_ne_endless acyclic category chart binding root)
      | failed fault => exact .inr ⟨fault, rfl⟩

/-! Two templates, one nested in the other one, and a text that uses the outer one. -/

def blink : Node := [("states", .arr [.obj [("add_time", .int 1), ("size", .int 10)]])]

def pulse : Node :=
  [("size", .int 20), ("states", .arr [.obj [("add_time", .int 1), ("template", .str "blink")]])]

def pulsing : Templates where
  fragments := [("blink", blink), ("pulse", pulse)]

def beat : Node :=
  [("states", .arr [.obj [("relative_time", .int 1), ("template", .str "pulse")]]),
   ("time", .int 0)]

theorem nests_pulsing {outer inner : String} (nests : pulsing.Nests outer inner) :
    outer = "pulse" ∧ inner = "blink" := by
  obtain ⟨merged, done, mentions⟩ := nests
  by_cases first : outer = "pulse"
  · subst first
    cases done.symm.trans (show _ = Except.ok pulse from rfl)
    rcases (Node.mentions_single_iff rfl).1 mentions with refers | deeper
    · cases refers
      exact ⟨rfl, rfl⟩
    · exact absurd deeper (Node.not_mentions_of_bare rfl)
  · by_cases second : outer = "blink"
    · subst second
      cases done.symm.trans (show _ = Except.ok blink from rfl)
      rcases (Node.mentions_single_iff rfl).1 mentions with refers | deeper
      · cases refers
      · exact absurd deeper (Node.not_mentions_of_bare rfl)
    · have missing : pulsing.get? outer = none := by
        simp [Templates.get?, pulsing, Keyed.get?, Ne.symm first, Ne.symm second]
      have unknown : pulsing.HasOffence (referring (.str outer)) (.of (.unknownTemplate outer)) :=
        ⟨[], .str outer, .here _, List.nodup_nil, .unknown missing⟩
      cases (Templates.complete_of_offence unknown).symm.trans done

theorem build_ends_beat :
    (∀ id, ¬ TransGen pulsing.Nests id id) ∧ pulsing.Nests "pulse" "blink" ∧
    Bounded Chart.empty pulsing 7 beat ∧
    nested Chart.empty pulsing 100 beat = ofNode Chart.empty pulsing beat := by
  have acyclic : ∀ id, ¬ TransGen pulsing.Nests id id := by
    intro id cycle
    obtain ⟨next, first, further⟩ := TransGen.head'_iff.1 cycle
    obtain ⟨_, _, last⟩ := TransGen.tail'_iff.1 cycle
    have start := (nests_pulsing first).1
    have stop := (nests_pulsing last).2
    exact absurd (start.symm.trans stop) (by decide)
  have nests : pulsing.Nests "pulse" "blink" :=
    ⟨pulse, rfl, (Node.mentions_single_iff rfl).2 (.inl rfl)⟩
  obtain ⟨_, _, bounded, _, stays, _⟩ := build_ends acyclic .text Chart.empty none beat
  have room : levels pulsing beat = 7 := by decide
  rw [room] at bounded stays
  exact ⟨acyclic, nests, bounded, stays 100 (by decide)⟩

end Timeline
end Storyboard
