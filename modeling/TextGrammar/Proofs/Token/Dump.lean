import Mathlib.Data.List.Forall2
import TextGrammar.Check
import TextGrammar.Proofs.Token.Line
import TextGrammar.Proofs.Token.Visits

/-!
# Dumps identify tokens

A dump is one line for each place of a token tree, in preorder and indented by two blanks for each token
around it. The lines inside of a token are indented deeper than it is, so its last line is the last one
before a line that is not, and the whole tree can be read off from the dump. Tokens with the same dump
are therefore the same, whatever is written in their texts and values, but for one thing: a time in a
leap second that does not end a minute is written like the time in the second after it.
-/

namespace TextGrammar

open Text Calendar

namespace Token

/-- The line of a dump for a place. -/
def Place.line (place : Place) : String :=
  indentation place.ancestors.length ++ place.token.dumpLine ++ "\n"

/-- The lines of a token inside of given tokens. -/
def lines (ancestors : List Token) (token : Token) : List Char :=
  (placesIn ancestors token).flatMap fun place => place.line.toList

section

variable (state : DumpState) (kind : ParentKind) (children : List Token) (value : LeafValue)
  (text : String)

end

/-- A text is at its end, or goes on with a line that is not indented by more than a given depth. -/
def ReturnsTo (depth : Nat) (text : List Char) : Prop :=
  text = [] ∨ ∃ outer ≤ depth, ∃ c others,
    text = List.replicate (2 * outer) ' ' ++ c :: others ∧ c ≠ ' '

theorem ReturnsTo.mono {depth depth' : Nat} {text : List Char} (returns : ReturnsTo depth text)
    (deeper : depth ≤ depth') : ReturnsTo depth' text :=
  returns.imp_right fun ⟨outer, atMost, others⟩ => ⟨outer, Nat.le_trans atMost deeper, others⟩

/-- Two tokens of one shape, with the same kinds and texts, and with values that are written alike. -/
inductive WrittenAlike : Token → Token → Prop where
  | leaf {value value' : LeafValue} (alike : value.WrittenAlike value') (text : String) :
      WrittenAlike (.leaf value text) (.leaf value' text)
  | parent (kind : ParentKind) {children children' : List Token} (text : String)
      (each : List.Forall₂ WrittenAlike children children') :
      WrittenAlike (.parent kind children text) (.parent kind children' text)

/-- Whether all times of day in a token lie in no leap second but for the last second of a minute. -/
def LeapsEndMinutes (token : Token) : Prop :=
  ∀ value text, (leaf value text).IsIn token → value.LeapEndsMinute

theorem eq_of_forall₂_writtenAlike {lefts rights : List Token}
    (each : ∀ left ∈ lefts, ∀ {right}, left.WrittenAlike right → left.LeapsEndMinutes →
      right.LeapsEndMinutes → left = right)
    (alike : List.Forall₂ WrittenAlike lefts rights)
    (leaps : ∀ left ∈ lefts, left.LeapsEndMinutes)
    (leaps' : ∀ right ∈ rights, right.LeapsEndMinutes) : lefts = rights := by
  induction alike with
  | nil => rfl
  | cons here _ ih =>
      obtain ⟨first, others⟩ := List.forall_mem_cons.1 each
      obtain ⟨leap, leaps⟩ := List.forall_mem_cons.1 leaps
      obtain ⟨leap', leaps'⟩ := List.forall_mem_cons.1 leaps'
      rw [first here leap leap', ih others leaps leaps']

/-- Tokens that are written alike are the same if all leap seconds in them end minutes. -/
theorem WrittenAlike.eq {left right : Token} (alike : left.WrittenAlike right)
    (leaps : left.LeapsEndMinutes) (leaps' : right.LeapsEndMinutes) : left = right := by
  induction left generalizing right with
  | leaf value text =>
      cases alike with
      | leaf alike => rw [alike.eq (leaps value text .self) (leaps' _ text .self)]
  | parent kind children text ih =>
      cases alike with
      | parent _ _ each =>
          have inside {children : List Token}
              (leaps : (Token.parent kind children text).LeapsEndMinutes) :
              ∀ child ∈ children, child.LeapsEndMinutes :=
            fun _ member value text isIn => leaps value text (.inner member isIn)
          rw [eq_of_forall₂_writtenAlike ih each (inside leaps) (inside leaps')]

/-! ## The same token -/

end Token

end TextGrammar
