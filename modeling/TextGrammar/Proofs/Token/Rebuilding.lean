import TextGrammar.Proofs.Token.Tree
import TextGrammar.Proofs.Token.Visits

/-!
# Rebuilding a text

The text of a token can be rebuilt by a visitor that sees only its parts. The text of a parent is kept
beside its children and compared with theirs when the parent is made, so it does not matter at which
depth a part of the text is taken: from the leaves, or whole from any tokens that are skipped. Each
part is taken once and in its place.
-/

namespace TextGrammar

variable {State : Type}

namespace Visitor

/-- A visitor changes what it holds only at the starts of tokens, and it visits the children of each
parent that it enters. -/
structure HoldsBetweenStarts (visitor : Visitor State) (held : State → String) : Prop where
  enters : ∀ kind children text state, (visitor.startParent kind children text state).1 = .enter
  startParent : ∀ kind children text state,
    held (visitor.startParent kind children text state).2 = held state
  visitLeaf : ∀ value text state, held (visitor.visitLeaf value text state) = held state
  endParent : ∀ kind children text state,
    held (visitor.endParent kind children text state) = held state
  endVisit : ∀ token state, held (visitor.endVisit token state) = held state

/-- A visitor skips nothing, and adds the text of each leaf to what it holds. -/
structure AddsLeaves (visitor : Visitor State) (held : State → String) : Prop
    extends visitor.HoldsBetweenStarts held where
  skipsNothing : ∀ token state, (visitor.startVisit token state).1 = .enter
  startLeaf : ∀ value text state,
    held (visitor.startVisit (.leaf value text) state).2 = held state ++ text
  startTree : ∀ kind children text state,
    held (visitor.startVisit (.parent kind children text) state).2 = held state

/-- A visitor adds the whole text of each token that it skips and of each leaf that it enters to what
it holds. Which tokens it skips is up to it, and may change with its state. -/
structure AddsSkipped (visitor : Visitor State) (held : State → String) : Prop
    extends visitor.HoldsBetweenStarts held where
  skipped : ∀ token state, (visitor.startVisit token state).1 = .skip →
    held (visitor.startVisit token state).2 = held state ++ token.text
  enteredLeaf : ∀ value text state, (visitor.startVisit (.leaf value text) state).1 = .enter →
    held (visitor.startVisit (.leaf value text) state).2 = held state ++ text
  enteredTree : ∀ kind children text state,
    (visitor.startVisit (.parent kind children text) state).1 = .enter →
      held (visitor.startVisit (.parent kind children text) state).2 = held state

/-- To skip nothing is one way of skipping. -/
theorem AddsLeaves.addsSkipped {visitor : Visitor State} {held : State → String}
    (adds : visitor.AddsLeaves held) : visitor.AddsSkipped held where
  toHoldsBetweenStarts := adds.toHoldsBetweenStarts
  skipped token state skips := by
    rw [adds.skipsNothing] at skips
    cases skips
  enteredLeaf value text state _ := adds.startLeaf value text state
  enteredTree kind children text state _ := adds.startTree kind children text state

end Visitor

namespace Token

variable {visitor : Visitor State} {held : State → String}

/-- If each of several tokens adds its text, then together they add their texts in order. -/
theorem held_acceptAll {tokens : List Token}
    (each : ∀ token ∈ tokens, ∀ state, held (token.accept visitor state) = held state ++ token.text)
    (state : State) :
    held (acceptAll visitor tokens state) = held state ++ joinTexts tokens := by
  induction tokens generalizing state with
  | nil => simp [acceptAll]
  | cons token tokens ih =>
      obtain ⟨here, later⟩ := List.forall_mem_cons.1 each
      rw [acceptAll, ih later, here, joinTexts_cons, String.append_assoc]

/-- A well formed token adds its text once, whether it is skipped or is added in parts. -/
theorem WellFormed.held_accept {token : Token} (wellFormed : token.WellFormed)
    (adds : visitor.AddsSkipped held) (state : State) :
    held (token.accept visitor state) = held state ++ token.text := by
  induction wellFormed generalizing state with
  | @leaf value text nonempty =>
      obtain ⟨inside, last, interior, -, finish⟩ := visits_eq visitor (.leaf value text) state
      rw [finish, adds.endVisit]
      cases interior with
      | skipped answer => simpa [answer] using adds.skipped (.leaf value text) state
      | leaf answer =>
          rw [adds.visitLeaf]
          simpa [answer, Token.text] using adds.enteredLeaf value text state
  | @parent kind children text joined eachChild ih =>
      obtain ⟨inside, last, interior, -, finish⟩ :=
        visits_eq visitor (.parent kind children text) state
      rw [finish, adds.endVisit]
      cases interior with
      | skipped answer => simpa [answer] using adds.skipped (.parent kind children text) state
      | @childrenSkipped _ _ _ _ first second answer childrenAnswer =>
          have enters := adds.enters kind children text first
          rw [childrenAnswer] at enters
          cases enters
      | @children _ _ _ _ first second answer childrenAnswer =>
          have entered : held first = held state := by
            simpa [answer] using adds.enteredTree kind children text state
          have opened : held second = held first := by
            simpa [childrenAnswer] using adds.startParent kind children text first
          rw [adds.endParent, held_acceptAll ih, opened, entered, Token.text, joined]

/-- Every token that can be made is rebuilt by a visitor that adds the texts of its leaves, and by one
that adds the whole texts of the tokens it skips and of the leaves it enters, whichever tokens it
skips. What is added to what the visitor held before is just the text of the token. -/
theorem rebuilds_text {token : Token} (made : token.Made) (visitor : Visitor State)
    (held : State → String) (start : State) :
    (visitor.AddsLeaves held → held (token.accept visitor start) = held start ++ token.text) ∧
      (visitor.AddsSkipped held → held (token.accept visitor start) = held start ++ token.text) :=
  ⟨fun adds => made.wellFormed.held_accept adds.addsSkipped start,
    fun adds => made.wellFormed.held_accept adds start⟩

/-- A key with a blank behind it, a mark, and a number that could be left out. -/
def keyAndNumber : Token :=
  .parent .sequence
    [.parent .sequence [.leaf (.string "a") "a", .leaf (.whitespace " ") " "] "a ",
      .leaf (.symbol "=") "=",
      .parent .optional [.leaf (.long 1) "1"] "1"]
    "a =1"

theorem made_keyAndNumber : keyAndNumber.Made := by
  simp [made_iff_wellFormed, keyAndNumber, joinTexts, Token.text]

/-- A visitor that holds the texts of leaves. -/
def addingLeaves : Visitor String where
  startVisit token held := (.enter, if token.isLeaf then held ++ token.text else held)

theorem addsLeaves_addingLeaves : addingLeaves.AddsLeaves id where
  enters _ _ _ _ := rfl
  startParent _ _ _ _ := rfl
  visitLeaf _ _ _ := rfl
  endParent _ _ _ _ := rfl
  endVisit _ _ := rfl
  skipsNothing _ _ := rfl
  startLeaf _ _ _ := rfl
  startTree _ _ _ _ := rfl

/-- A visitor that skips every other token, and counts the tokens beside the text that it holds. -/
def skippingEveryOther : Visitor (Nat × String) where
  startVisit token state :=
    if state.1 % 2 = 1 then (.skip, state.1 + 1, state.2 ++ token.text)
    else (.enter, state.1 + 1, if token.isLeaf then state.2 ++ token.text else state.2)

theorem addsSkipped_skippingEveryOther : skippingEveryOther.AddsSkipped Prod.snd where
  enters _ _ _ _ := rfl
  startParent _ _ _ _ := rfl
  visitLeaf _ _ _ := rfl
  endParent _ _ _ _ := rfl
  endVisit _ _ := rfl
  skipped token state skips := by
    simp only [skippingEveryOther] at skips ⊢
    split at skips <;> simp_all
  enteredLeaf value text state enters := by
    simp only [skippingEveryOther] at enters ⊢
    split at enters <;> simp_all [isLeaf, Token.text]
  enteredTree kind children text state enters := by
    simp only [skippingEveryOther] at enters ⊢
    split at enters <;> simp_all [isLeaf]

theorem rebuilds_text_keyAndNumber :
    keyAndNumber.Made ∧ addingLeaves.AddsLeaves id ∧
      keyAndNumber.accept addingLeaves "" = "" ++ "a =1" ∧
      skippingEveryOther.AddsSkipped Prod.snd ∧
      (keyAndNumber.accept skippingEveryOther (0, "")).2 = "" ++ "a =1" :=
  ⟨made_keyAndNumber, addsLeaves_addingLeaves,
    (rebuilds_text made_keyAndNumber addingLeaves id "").1 addsLeaves_addingLeaves,
    addsSkipped_skippingEveryOther,
    (rebuilds_text made_keyAndNumber skippingEveryOther Prod.snd (0, "")).2
      addsSkipped_skippingEveryOther⟩

end Token

end TextGrammar
