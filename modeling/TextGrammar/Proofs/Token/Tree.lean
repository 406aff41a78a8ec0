import TextGrammar.Token.Basic
import TextGrammar.Token.Change
import TextGrammar.Token.Inspection

/-!
# Token trees

A token and the tokens inside of it form a tree. The induction over tokens has a case for leaves and a
case for parents, which hands on what is known of all children. The places of a tree are its tokens in
preorder, each with the tokens around it. The tokens that can be made are just the well formed ones, and
functions on tokens keep them so.
-/

namespace TextGrammar.Token

/-- What holds of leaves, and of a parent whenever it holds of its children, holds of every token. -/
@[induction_eliminator, elab_as_elim]
theorem induction {motive : Token → Prop}
    (leaf : ∀ value text, motive (.leaf value text))
    (parent : ∀ kind children text, (∀ child ∈ children, motive child) →
      motive (.parent kind children text))
    (token : Token) : motive token :=
  @Token.rec motive (fun children => ∀ child ∈ children, motive child) leaf parent
    (by simp) (fun _ _ first others => List.forall_mem_cons.2 ⟨first, others⟩) token

/-- A token is another one or stands somewhere inside of it. -/
inductive IsIn (token : Token) : Token → Prop where
  | self : IsIn token token
  | inner {child : Token} {kind : ParentKind} {children : List Token} {text : String}
      (member : child ∈ children) (inside : IsIn token child) :
      IsIn token (.parent kind children text)

/-- A place in a token tree. -/
structure Place where
  /-- The tokens around the place, the nearest first. -/
  ancestors : List Token
  token : Token

mutual

/-- The places of a token tree that stands inside of given tokens, in preorder. -/
def placesIn (ancestors : List Token) : Token → List Place
  | .leaf value text => [⟨ancestors, .leaf value text⟩]
  | .parent kind children text =>
      ⟨ancestors, .parent kind children text⟩ ::
        placesOfAll (.parent kind children text :: ancestors) children

/-- The places of several token trees, one after the other. -/
def placesOfAll (ancestors : List Token) : List Token → List Place
  | [] => []
  | token :: tokens => placesIn ancestors token ++ placesOfAll ancestors tokens

end

/-- The places of a token tree, in preorder. -/
def places (token : Token) : List Place :=
  token.placesIn []

theorem placesOfAll_eq_flatMap (ancestors tokens : List Token) :
    placesOfAll ancestors tokens = tokens.flatMap (placesIn ancestors) := by
  induction tokens with
  | nil => rfl
  | cons token tokens ih => rw [placesOfAll, ih, List.flatMap_cons]

/-- The first place of a tree is that of the token itself, and the others are inside of it. -/
theorem placesIn_eq (ancestors : List Token) (token : Token) :
    placesIn ancestors token =
      ⟨ancestors, token⟩ :: token.children.flatMap (placesIn (token :: ancestors)) := by
  cases token with
  | leaf value text => rfl
  | parent kind children text => rw [placesIn, placesOfAll_eq_flatMap, Token.children]

/-- The tokens around a tree are around each of its places. -/
theorem mem_ancestors_of_mem_placesIn {token ancestor : Token} {ancestors : List Token}
    {place : Place} (inside : place ∈ placesIn ancestors token) (around : ancestor ∈ ancestors) :
    ancestor ∈ place.ancestors := by
  induction token generalizing ancestors with
  | leaf value text =>
      rw [placesIn, List.mem_singleton] at inside
      rwa [inside]
  | parent kind children text ih =>
      rw [placesIn_eq, List.mem_cons, List.mem_flatMap] at inside
      rcases inside with rfl | ⟨child, member, inside⟩
      · exact around
      · exact ih child member inside (List.mem_cons_of_mem _ around)

/-! ## The leaves of a token

The leaves of a token tree in order are all that was read from the text. In a well formed tree their
texts, one after the other, are the text of the tree. -/

mutual

/-- The leaves of a token, from left to right. -/
def leaves : Token → List Token
  | .leaf value text => [.leaf value text]
  | .parent _ children _ => leavesOfAll children

/-- The leaves of several tokens, from left to right. -/
def leavesOfAll : List Token → List Token
  | [] => []
  | token :: tokens => token.leaves ++ leavesOfAll tokens

end

theorem joinTexts_cons (token : Token) (tokens : List Token) :
    joinTexts (token :: tokens) = token.text ++ joinTexts tokens := by
  simp [joinTexts, String.ofList_append]

theorem joinTexts_append (front back : List Token) :
    joinTexts (front ++ back) = joinTexts front ++ joinTexts back := by
  simp [joinTexts, String.ofList_append]

/-- If each of several tokens has the text of its leaves, then all of them together have. -/
theorem joinTexts_leavesOfAll {tokens : List Token}
    (each : ∀ token ∈ tokens, joinTexts token.leaves = token.text) :
    joinTexts (leavesOfAll tokens) = joinTexts tokens := by
  induction tokens with
  | nil => rfl
  | cons token tokens ih =>
      rw [List.forall_mem_cons] at each
      rw [leavesOfAll, joinTexts_append, each.1, ih each.2, joinTexts_cons]

/-- The leaves of a well formed token have its text. -/
theorem WellFormed.joinTexts_leaves {token : Token} (wellFormed : token.WellFormed) :
    joinTexts token.leaves = token.text := by
  induction wellFormed with
  | leaf nonempty => simp [leaves, joinTexts, text]
  | parent joined eachChild ih =>
      rw [leaves, joinTexts_leavesOfAll ih, text, joined]

/-! ## Tokens that are made

A token is made in one of two ways: a leaf of a value and a text, or a parent of tokens that were made
before and a text. Both refuse a text that does not fit. The tokens that can be made in any number of
such steps are just the well formed ones, so what holds of all well formed tokens holds of all there
ever are. -/

/-- A leaf can be made just if it has text. -/
theorem makeLeaf_eq_ok_iff {value : LeafValue} {text : String} {token : Token} :
    makeLeaf value text = .ok token ↔ text ≠ "" ∧ token = .leaf value text := by
  unfold makeLeaf
  split
  next empty => simp [empty]
  next nonempty => simp [nonempty, eq_comm]

/-- A parent can be made just if it has the text of its children. -/
theorem makeParent_eq_ok_iff {kind : ParentKind} {children : List Token} {text : String}
    {token : Token} :
    makeParent kind children text = .ok token ↔
      text = joinTexts children ∧ token = .parent kind children text := by
  unfold makeParent
  split
  next joined => simp [joined, eq_comm]
  next other => simp [other]

@[simp] theorem wellFormed_leaf_iff {value : LeafValue} {text : String} :
    (leaf value text).WellFormed ↔ text ≠ "" := by
  constructor
  · rintro (nonempty | _)
    exact nonempty
  · exact .leaf

@[simp] theorem wellFormed_parent_iff {kind : ParentKind} {children : List Token} {text : String} :
    (parent kind children text).WellFormed ↔
      text = joinTexts children ∧ ∀ child ∈ children, child.WellFormed := by
  constructor
  · rintro (_ | ⟨joined, eachChild⟩)
    exact ⟨joined, eachChild⟩
  · rintro ⟨joined, eachChild⟩
    exact .parent joined eachChild

/-- The tokens that can be made, of any depth. -/
inductive Made : Token → Prop where
  | leaf {value : LeafValue} {text : String} {token : Token}
      (made : makeLeaf value text = .ok token) : Made token
  | parent {kind : ParentKind} {children : List Token} {text : String} {token : Token}
      (eachChild : ∀ child ∈ children, Made child)
      (made : makeParent kind children text = .ok token) : Made token

theorem Made.wellFormed {token : Token} (made : token.Made) : token.WellFormed := by
  induction made with
  | leaf made => exact (wellFormed_of_makeLeaf made).1
  | parent eachChild made ih => exact (wellFormed_of_makeParent ih made).1

theorem WellFormed.made {token : Token} (wellFormed : token.WellFormed) : token.Made := by
  induction wellFormed with
  | leaf nonempty => exact .leaf (makeLeaf_eq_ok_iff.2 ⟨nonempty, rfl⟩)
  | parent joined eachChild ih => exact .parent ih (makeParent_eq_ok_iff.2 ⟨joined, rfl⟩)

/-- Just the well formed tokens can be made. -/
theorem made_iff_wellFormed {token : Token} : token.Made ↔ token.WellFormed :=
  ⟨Made.wellFormed, WellFormed.made⟩

/-! ## What an inspection accepts

An inspection finds nothing wrong with a token just if the token is well formed. The rules on kinds,
on how a token is written and on skipping hold of every token there can be, so the only ones that can
be broken are those on the texts of leaves and parents. -/

theorem skipCount_eq (token : Token) : token.skipCount = .ofSkipped := by
  cases token <;> rfl

theorem inspectSkipping_eq_ok (token : Token) : token.inspectSkipping = .ok () :=
  if_pos token.skipCount_eq

theorem inspectKind_eq_ok (token : Token) : token.inspectKind = .ok () := by
  cases token with
  | leaf value text =>
      cases value <;> simp [inspectKind, isLeaf, isParent, isWhitespace, isSymbol, isNoise, display,
        pure, Except.pure]
  | parent kind children text =>
      simp [inspectKind, isLeaf, isParent, isWhitespace, isSymbol, display, pure, Except.pure]

theorem inspectAll_eq_ok_iff {tokens : List Token} :
    inspectAll tokens = .ok () ↔ ∀ token ∈ tokens, token.inspect = .ok () := by
  induction tokens with
  | nil => simp [inspectAll]
  | cons token tokens ih =>
      rw [List.forall_mem_cons, ← ih, inspectAll]
      cases token.inspect with
      | ok value => simp [bind, Except.bind]
      | error defect => simp [bind, Except.bind]

/-- Just the well formed tokens pass an inspection. -/
theorem inspect_eq_ok_iff {token : Token} : token.inspect = .ok () ↔ token.WellFormed := by
  induction token with
  | leaf value text =>
      rw [inspect, inspectKind_eq_ok, inspectSkipping_eq_ok, wellFormed_leaf_iff]
      by_cases empty : text = "" <;> simp [empty, bind, Except.bind]
  | parent kind children text ih =>
      rw [inspect, inspectKind_eq_ok, inspectSkipping_eq_ok, wellFormed_parent_iff]
      by_cases joined : text = joinTexts children
      · have each : inspectAll children = .ok () ↔ ∀ child ∈ children, child.WellFormed := by
          rw [inspectAll_eq_ok_iff]
          exact forall₂_congr ih
        rw [← each]
        cases inspectAll children <;> simp [joined, bind, Except.bind]
      · simp [joined, bind, Except.bind]

/-! ## Functions that keep the text

Tokens are only ever made by `makeLeaf` and `makeParent`, so a function on tokens makes well formed
ones of well formed ones. If it hands on the text too, a reader does not notice that it was called.
All functions of the library are of that kind. -/

/-- A function hands on the text of well formed tokens. -/
def KeepsText (change : Token → Token) : Prop :=
  ∀ token, token.WellFormed → (change token).WellFormed ∧ (change token).text = token.text

/-- A function that may fail hands on the text of well formed tokens whenever it does not fail. -/
def KeepsTextIfAny (change : Token → Conventions → Except ParseError Token) : Prop :=
  ∀ token conventions changed, token.WellFormed → change token conventions = .ok changed →
    changed.WellFormed ∧ changed.text = token.text

/-- A function that does not fail for well formed tokens hands on their text. -/
def AlwaysKeepsText (change : Token → Conventions → Except ParseError Token) : Prop :=
  ∀ token conventions, token.WellFormed → ∃ changed,
    change token conventions = .ok changed ∧ changed.WellFormed ∧ changed.text = token.text

namespace AlwaysKeepsText

variable {change : Token → Conventions → Except ParseError Token}

theorem keepsTextIfAny (keeps : AlwaysKeepsText change) : KeepsTextIfAny change := by
  intro token conventions changed wellFormed made
  rcases keeps token conventions wellFormed with ⟨other, same, kept⟩
  rw [made] at same
  cases same
  exact kept

theorem ne_error (keeps : AlwaysKeepsText change) {token : Token} (wellFormed : token.WellFormed)
    (conventions : Conventions) (error : ParseError) : change token conventions ≠ .error error := by
  intro failed
  rcases keeps token conventions wellFormed with ⟨changed, made, -⟩
  rw [failed] at made
  cases made

end AlwaysKeepsText

theorem keepsText_asSymbol : KeepsText asSymbol := by
  intro token wellFormed
  unfold asSymbol makeSymbol
  cases made : makeLeaf (.symbol token.text) token.text with
  | ok symbol => exact wellFormed_of_makeLeaf made
  | error fault => exact ⟨wellFormed, rfl⟩

theorem keepsText_wrap : KeepsText wrap := by
  intro token wellFormed
  unfold wrap
  cases made : makeParent .sequence [token] token.text with
  | ok sequence => exact wellFormed_of_makeParent (by simpa using wellFormed) made
  | error fault => exact ⟨wellFormed, rfl⟩

/-- A leaf that is made of the text of a token, where a fault is an error of reading. -/
theorem wellFormed_of_orInvalid {value : LeafValue} {text : String} {changed : Token}
    (made : orInvalid (makeLeaf value text) = .ok changed) :
    changed.WellFormed ∧ changed.text = text := by
  cases leaf : makeLeaf value text with
  | ok token =>
      rw [leaf] at made
      cases made
      exact wellFormed_of_makeLeaf leaf
  | error fault =>
      rw [leaf] at made
      cases made

theorem keepsTextIfAny_asSign :
    KeepsTextIfAny fun token conventions => token.asSign conventions.number := by
  intro token conventions changed wellFormed made
  exact wellFormed_of_orInvalid made

theorem keepsTextIfAny_prefixedNumber : KeepsTextIfAny fun token _ => token.prefixedNumber := by
  intro token conventions changed wellFormed made
  simp only [prefixedNumber] at made
  split at made
  next kind mark digits text =>
    split at made
    · exact wellFormed_of_orInvalid made
    · cases made
  next => cases made

end TextGrammar.Token
