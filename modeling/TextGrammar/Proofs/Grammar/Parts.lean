import TextGrammar.Grammar

/-!
# The parts of a grammar

A grammar is built of grammars, which are its parts. What is asked of a grammar is mostly asked of
each of its parts alone: of the reporters, of the functions that change tokens, of the matchers from
elsewhere. The induction over grammars has one case for each way of building, and hands on what is
known of all members of a list.
-/

namespace TextGrammar

mutual

/-- A grammar and all grammars inside of it. -/
def Grammar.parts : Grammar → List Grammar
  | .leaf leaf => [.leaf leaf]
  | .sequence components => .sequence components :: partsOfComponents components
  | .alternatives choices => .alternatives choices :: partsOfGrammars choices
  | .optional inner => .optional inner :: inner.parts
  | .repeated minimum inner => .repeated minimum inner :: inner.parts
  | .labelled label inner => .labelled label inner :: inner.parts
  | .orReport reporter inner => .orReport reporter inner :: inner.parts
  | .orFailIfTextRemains reporter inner => .orFailIfTextRemains reporter inner :: inner.parts
  | .andNothingRemains inner => .andNothingRemains inner :: inner.parts
  | .map change inner => .map change inner :: inner.parts
  | .transform change inner => .transform change inner :: inner.parts
  | .external label matcher => [.external label matcher]

/-- The parts of a component of a sequence. -/
def Component.parts : Component → List Grammar
  | .required grammar => grammar.parts
  | .optional grammar => grammar.parts

/-- The parts of several components. -/
def partsOfComponents : List Component → List Grammar
  | [] => []
  | component :: components => component.parts ++ partsOfComponents components

/-- The parts of several grammars. -/
def partsOfGrammars : List Grammar → List Grammar
  | [] => []
  | grammar :: grammars => grammar.parts ++ partsOfGrammars grammars

end

namespace Grammar

/-- What holds of a grammar whenever it holds of the grammars that it is built of directly holds of
every grammar. -/
@[induction_eliminator, elab_as_elim]
theorem induction {motive : Grammar → Prop}
    (leaf : ∀ leaf, motive (.leaf leaf))
    (sequence : ∀ components, (∀ component ∈ components, motive component.grammar) →
      motive (.sequence components))
    (alternatives : ∀ choices, (∀ choice ∈ choices, motive choice) →
      motive (.alternatives choices))
    (optional : ∀ inner, motive inner → motive (.optional inner))
    (repeated : ∀ minimum inner, motive inner → motive (.repeated minimum inner))
    (labelled : ∀ label inner, motive inner → motive (.labelled label inner))
    (orReport : ∀ reporter inner, motive inner → motive (.orReport reporter inner))
    (orFailIfTextRemains : ∀ reporter inner, motive inner →
      motive (.orFailIfTextRemains reporter inner))
    (andNothingRemains : ∀ inner, motive inner → motive (.andNothingRemains inner))
    (map : ∀ change inner, motive inner → motive (.map change inner))
    (transform : ∀ change inner, motive inner → motive (.transform change inner))
    (external : ∀ label matcher, motive (.external label matcher))
    (grammar : Grammar) : motive grammar :=
  @Grammar.rec motive (fun component => motive component.grammar)
    (fun components => ∀ component ∈ components, motive component.grammar)
    (fun choices => ∀ choice ∈ choices, motive choice)
    leaf sequence alternatives optional repeated labelled orReport orFailIfTextRemains
    andNothingRemains map transform external
    (fun _ holds => holds) (fun _ holds => holds)
    (by simp) (fun _ _ first others => List.forall_mem_cons.2 ⟨first, others⟩)
    (by simp) (fun _ _ first others => List.forall_mem_cons.2 ⟨first, others⟩)
    grammar

theorem parts_component (component : Component) : component.parts = component.grammar.parts := by
  cases component <;> rfl

theorem partsOfComponents_eq_flatMap (components : List Component) :
    partsOfComponents components =
      components.flatMap fun component => component.grammar.parts := by
  induction components with
  | nil => rfl
  | cons component components ih =>
      simp [partsOfComponents, parts_component, ih]

theorem partsOfGrammars_eq_flatMap (grammars : List Grammar) :
    partsOfGrammars grammars = grammars.flatMap Grammar.parts := by
  induction grammars with
  | nil => rfl
  | cons grammar grammars ih => simp [partsOfGrammars, ih]

/-- A grammar is one of its parts. -/
theorem self_mem_parts (grammar : Grammar) : grammar ∈ grammar.parts := by
  cases grammar <;> simp [parts]

/-- The parts of a component are parts of the sequence. -/
theorem parts_subset_sequence {components : List Component} {component : Component}
    (member : component ∈ components) :
    component.grammar.parts ⊆ (sequence components).parts := by
  intro part inside
  rw [parts, partsOfComponents_eq_flatMap]
  exact List.mem_cons_of_mem _ (List.mem_flatMap.2 ⟨component, member, inside⟩)

/-- The parts of a choice are parts of the alternatives. -/
theorem parts_subset_alternatives {choices : List Grammar} {choice : Grammar}
    (member : choice ∈ choices) : choice.parts ⊆ (alternatives choices).parts := by
  intro part inside
  rw [parts, partsOfGrammars_eq_flatMap]
  exact List.mem_cons_of_mem _ (List.mem_flatMap.2 ⟨choice, member, inside⟩)

end Grammar

end TextGrammar
