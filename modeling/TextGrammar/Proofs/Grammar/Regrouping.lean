import TextGrammar.Proofs.Grammar.Sequence

/-!
# Sequences of sequences

The components of a sequence may be put into groups, with a sequence for each group. A component that
is missing in some group then undoes that group first and, if it is required, all groups before it; one
that is optional undoes only itself. So nothing changes but the token, which holds in groups what the
sequence without groups holds in one row.
-/

namespace TextGrammar.Grammar

variable {conventions : Conventions} {start : Cursor}

/-- A sequence whose components are sequences, all of them required. -/
def ofGroups (groups : List (List Component)) : Grammar :=
  .sequence (groups.map fun group => .required (.sequence group))

/-- Tokens are sequences of blocks, and others are the members of the blocks in order. -/
def AreBlocksOf (nested tokens : List Token) : Prop :=
  ∃ blocks : List (List Token), nested = blocks.map Token.sequenceOf ∧ tokens = blocks.flatten

theorem AreBlocksOf.cons {nested tokens : List Token} (areBlocks : AreBlocksOf nested tokens)
    (block : List Token) : AreBlocksOf (.sequenceOf block :: nested) (block ++ tokens) := by
  rcases areBlocks with ⟨blocks, rfl, rfl⟩
  exact ⟨block :: blocks, rfl, rfl⟩

theorem AreBlocksOf.flatMap_children {nested tokens : List Token}
    (areBlocks : AreBlocksOf nested tokens) : nested.flatMap Token.children = tokens := by
  rcases areBlocks with ⟨blocks, rfl, rfl⟩
  rw [List.flatMap_map]
  exact List.flatMap_id

theorem AreBlocksOf.joinTexts_eq {nested tokens : List Token}
    (areBlocks : AreBlocksOf nested tokens) : Token.joinTexts nested = Token.joinTexts tokens := by
  rcases areBlocks with ⟨blocks, rfl, rfl⟩
  induction blocks with
  | nil => rfl
  | cons block blocks ih =>
      rw [List.map_cons, Token.joinTexts_cons, List.flatten_cons, Token.joinTexts_append, ih]
      rfl

/-- A group collects as one token what its components collect by themselves. -/
theorem alike_tokens_group {group : List Component} (consume : ConsumeText group)
    (label label' : String) (conventions : Conventions) (start : Cursor) :
    ((Component.required (.sequence group)).part.tokens label conventions start).Alike
      (fun found tokens => found = [.sequenceOf tokens])
      (Matcher.gather label' (componentParts group) conventions start) := by
  have collected := ((Matcher.alike_tokens_of_required label (Grammar.sequence group).label
    (Grammar.sequence group).matcher conventions start).trans
    (Matcher.alike_sequence consume.parts _ conventions start)).trans
    (Matcher.alike_gather _ _ label' conventions start)
  apply collected.mono
  intro found tokens pair
  rcases pair with ⟨tokens, ⟨token, rfl, rfl⟩, rfl⟩
  rfl

/-- The groups together collect what all components collect. -/
theorem alike_gather_groups {groups : List (List Component)}
    (consume : ∀ group ∈ groups, ConsumeText group) (label label' : String)
    (conventions : Conventions) (start : Cursor) :
    (Matcher.gather label
      (componentParts (groups.map fun group => .required (.sequence group))) conventions start).Alike
      AreBlocksOf (Matcher.gather label' (componentParts groups.flatten) conventions start) := by
  induction groups generalizing start with
  | nil => exact .matched ⟨[], rfl, rfl⟩ start
  | cons group groups ih =>
      rw [List.forall_mem_cons] at consume
      rw [List.flatten_cons, componentParts_append, Matcher.gather_append]
      apply (alike_tokens_group consume.1 label label' conventions start).andThen
      intro found block next matched same
      subst same
      apply (ih consume.2 next).andThen
      intro nested tokens finish matched areBlocks
      exact .matched (areBlocks.cons block) finish

theorem ConsumeText.ofGroups {groups : List (List Component)}
    (consume : ∀ group ∈ groups, ConsumeText group) :
    ConsumeText (groups.map fun group => .required (.sequence group)) := by
  intro component member
  rcases List.mem_map.1 member with ⟨group, inside, rfl⟩
  exact Matcher.consumesText_sequence (consume group inside).parts _

/-- The components of a sequence may be grouped in any way, also with groups that are empty. The
sequence of the groups matches, does not match or fails just where the sequence of all components
does, and leaves the cursor at the same place; an error is the same. What it matches is a sequence of
sequences, whose children together, in order, are the children of the other token, and the texts are
equal. -/
theorem sequences_regroup (groups : List (List Component))
    (consume : ∀ group ∈ groups, ConsumeText group) (conventions : Conventions) (start : Cursor) :
    let grouped := (ofGroups groups).parse conventions start
    let flat := (sequence groups.flatten).parse conventions start
    grouped.cursor = flat.cursor ∧
      grouped.outcome.Alike (fun nested token => Token.SequencesOf AreBlocksOf nested token ∧
        nested.children.flatMap Token.children = token.children ∧ nested.text = token.text)
        flat.outcome := by
  intro grouped flat
  have consumeAll : ConsumeText groups.flatten := by
    intro component member
    rcases List.mem_flatten.1 member with ⟨group, inside, member⟩
    exact consume group inside component member
  have alike := Matcher.alike_sequences (ConsumeText.ofGroups consume).parts consumeAll.parts
    (alike_gather_groups consume (ofGroups groups).label (sequence groups.flatten).label
      conventions start)
  refine ⟨alike.2.symm, alike.1.mono ?_⟩
  intro nested token sequences
  rcases id sequences with ⟨tokens, tokens', rfl, rfl, areBlocks⟩
  exact ⟨sequences, areBlocks.flatMap_children, areBlocks.joinTexts_eq⟩

/-- Three groups: a mark, nothing, and a letter that another mark may precede. The other mark leaves
its cursor anywhere where it is missing. -/
def markGroups : List (List Component) :=
  [[.required strayMark], [], [.optional strayMark, .required (.leaf (.symbol "b"))]]

theorem consumeText_markGroups : ∀ group ∈ markGroups, ConsumeText group := by
  have letter : (leaf (.symbol "b")).matcher.ConsumesText :=
    ((Leaf.symbol "b").reads_matcher fun _ _ => True).consumesText
  simp [markGroups, ConsumeText, Component.grammar, consumesText_strayMark, letter]

/-- A mark and a letter in the groups that they were found in. -/
def groupedMark : Token :=
  .sequenceOf [.sequenceOf [.leaf (.symbol "é") "é"], .sequenceOf [],
    .sequenceOf [.leaf (.symbol "b") "b"]]

/-- A cursor before a mark and a letter. -/
def markStart : Cursor :=
  (Cursor.ofText "xéb;").skip 1

set_option maxRecDepth 4000 in
theorem outcome_ofGroups_markGroups :
    ((ofGroups markGroups).parse (.english 2000) markStart).outcome = .matched groupedMark := rfl

set_option maxRecDepth 4000 in
theorem outcome_ofGroups_markGroups_twoMarks :
    ((ofGroups markGroups).parse (.english 2000) (.ofText "éécb")).outcome = .noMatch := rfl

theorem sequences_regroup_markGroups :
    (∀ group ∈ markGroups, ConsumeText group) ∧
      (∃ token,
        ((sequence markGroups.flatten).parse (.english 2000) markStart).outcome = .matched token ∧
        token.children = [.leaf (.symbol "é") "é", .leaf (.symbol "b") "b"] ∧ token.text = "éb") ∧
      ((sequence markGroups.flatten).parse (.english 2000) (.ofText "éécb")).outcome = .noMatch := by
  rcases sequences_regroup markGroups consumeText_markGroups (.english 2000) markStart with
    ⟨-, found⟩
  rcases sequences_regroup markGroups consumeText_markGroups (.english 2000) (.ofText "éécb") with
    ⟨-, missing⟩
  rcases found.exists_of_matched outcome_ofGroups_markGroups with ⟨token, flat, -, children, text⟩
  exact ⟨consumeText_markGroups, ⟨token, flat, children.symm, text.symm⟩,
    missing.noMatch_of_noMatch outcome_ofGroups_markGroups_twoMarks⟩

end TextGrammar.Grammar
