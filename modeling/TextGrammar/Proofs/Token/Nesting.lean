import TextGrammar.Token.Visitor

/-!
# Nesting of calls

Some calls of a visitor start what another call ends. A list of calls is nested if its starts and ends
match like brackets; then the end that matches a start is the first one with nested calls before it,
and there is no other.
-/

namespace TextGrammar

namespace VisitCall

/-- The token for which a call is made. -/
def token : VisitCall → Token
  | .startVisit token | .endVisit token => token
  | .startParent kind children text | .endParent kind children text => .parent kind children text
  | .visitLeaf value text => .leaf value text

/-- The call that ends what a call starts. -/
def closing? : VisitCall → Option VisitCall
  | .startVisit token => some (.endVisit token)
  | .startParent kind children text => some (.endParent kind children text)
  | _ => none

/-- Whether a call ends what another call started. -/
def isEnd : VisitCall → Bool
  | .endVisit _ | .endParent _ _ _ => true
  | _ => false

/-- The token of a call at its start. -/
def started? : VisitCall → Option Token
  | .startVisit token => some token
  | _ => none

theorem isEnd_of_closing? {opening closing : VisitCall} (closes : opening.closing? = some closing) :
    closing.isEnd = true := by
  cases opening <;> simp only [closing?, Option.some.injEq, reduceCtorEq] at closes <;>
    subst closes <;> rfl

theorem isEnd_eq_false_of_closing? {opening closing : VisitCall}
    (closes : opening.closing? = some closing) : opening.isEnd = false := by
  cases opening <;> simp_all [closing?, isEnd]

end VisitCall

/-- The lists of calls in which each start has its end, with nested calls between them, and the other
way round. -/
inductive Nested : List VisitCall → Prop where
  | nil : Nested []
  | leaf {value : LeafValue} {text : String} {calls : List VisitCall} (others : Nested calls) :
      Nested (.visitLeaf value text :: calls)
  | pair {opening closing : VisitCall} {inside calls : List VisitCall}
      (closes : opening.closing? = some closing) (inner : Nested inside) (others : Nested calls) :
      Nested (opening :: (inside ++ closing :: calls))

namespace Nested

theorem append {front back : List VisitCall} (first : Nested front) (second : Nested back) :
    Nested (front ++ back) := by
  induction first with
  | nil => exact second
  | leaf others ih => exact .leaf ih
  | pair closes inner others innerIH ih =>
      rw [List.cons_append, List.append_assoc, List.cons_append]
      exact .pair closes inner ih

/-- After a nested list of calls, the next end is in one place only. -/
theorem end_unique {inside inside' back back' : List VisitCall} {closing closing' : VisitCall}
    (first : Nested inside) (second : Nested inside') (closes : closing.isEnd = true)
    (closes' : closing'.isEnd = true)
    (equal : inside ++ closing :: back = inside' ++ closing' :: back') :
    inside = inside' ∧ closing = closing' ∧ back = back' := by
  induction first generalizing inside' closing closing' back back' with
  | nil =>
      cases second with
      | nil => simpa using equal
      | leaf others =>
          obtain ⟨rfl, -⟩ := List.cons.inj equal
          cases closes
      | pair opens inner others =>
          obtain ⟨rfl, -⟩ := List.cons.inj equal
          simp [VisitCall.isEnd_eq_false_of_closing? opens] at closes
  | leaf others ih =>
      cases second with
      | nil =>
          obtain ⟨rfl, -⟩ := List.cons.inj equal
          cases closes'
      | leaf others' =>
          obtain ⟨same, equal⟩ := List.cons.inj equal
          obtain ⟨rfl, rfl, rfl⟩ := ih others' closes closes' equal
          exact ⟨by rw [same], rfl, rfl⟩
      | pair opens inner others' =>
          obtain ⟨rfl, -⟩ := List.cons.inj equal
          cases opens
  | pair opens inner others innerIH ih =>
      cases second with
      | nil =>
          obtain ⟨rfl, -⟩ := List.cons.inj equal
          simp [VisitCall.isEnd_eq_false_of_closing? opens] at closes'
      | leaf others' =>
          obtain ⟨rfl, -⟩ := List.cons.inj equal
          cases opens
      | pair opens' inner' others' =>
          simp only [List.cons_append, List.append_assoc, List.cons.injEq] at equal
          obtain ⟨rfl, equal⟩ := equal
          -- The inner ends match first, and what comes after them is shorter.
          obtain ⟨rfl, rfl, later⟩ := innerIH inner' (VisitCall.isEnd_of_closing? opens)
            (VisitCall.isEnd_of_closing? opens') equal
          obtain ⟨rfl, rfl, rfl⟩ := ih others' closes closes' later
          exact ⟨rfl, rfl, rfl⟩

end Nested

end TextGrammar
