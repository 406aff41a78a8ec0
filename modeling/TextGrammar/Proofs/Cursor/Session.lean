import TextGrammar.Cursor

/-!
# Sessions with cursors

A session is a number of cursors over one text and a number of marks that were left by them. What is
done in it is told by the numbers of the cursors and the marks, so the same actions can be taken with
whatever stands for them, and the answers compared. If one kind of cursors is the image of another, so
that each operation does to the images what it does to the originals, then whole runs give the same
answers and end in images of one another.
-/

namespace TextGrammar

/-- What can be done with cursors, for some kind of places and of marks. -/
structure Navigator (Place Mark : Type) where
  next? : Place → Option (Char × Place)
  at? : Place → Option Char
  toEnd : Place → Place
  advance? : Nat → Place → Option Place
  save : Place → Mark
  restore : Mark → Place → Place
  isAt : Mark → Place → Bool
  textBetween : Mark → Place → String
  compare : Mark → Mark → Ordering

/-- Something to do with the cursor of a number, and perhaps with the mark of a number. -/
inductive CursorAction where
  | next (cursor : Nat)
  | peek (cursor : Nat)
  | toEnd (cursor : Nat)
  | advance (bytes cursor : Nat)
  /-- A new mark is left at the cursor, after those there are. -/
  | save (cursor : Nat)
  | restore (mark cursor : Nat)
  | isAt (mark cursor : Nat)
  | textBetween (mark cursor : Nat)
  | compare (mark other : Nat)
  /-- A new cursor is put where the cursor is, after those there are. -/
  | clone (cursor : Nat)

/-- What comes back from an action. -/
inductive CursorAnswer where
  | done
  | character (found : Option Char)
  | truth (holds : Bool)
  | text (part : String)
  | order (ordering : Ordering)
  /-- There is no cursor or no mark of the number. -/
  | unknown
  deriving DecidableEq, Repr

/-- The cursors and the marks there are, the oldest first. -/
structure Session (Place Mark : Type) where
  cursors : List Place
  marks : List Mark

variable {Place Mark Place' Mark' : Type}

namespace Session

/-- The session with a cursor moved. -/
def move (session : Session Place Mark) (cursor : Nat) (place : Place) : Session Place Mark :=
  { session with cursors := session.cursors.set cursor place }

/-- What is done with the cursor of a number, if there is one. -/
def withCursor (session : Session Place Mark) (cursor : Nat)
    (act : Place → CursorAnswer × Session Place Mark) : CursorAnswer × Session Place Mark :=
  match session.cursors[cursor]? with
  | some place => act place
  | none => (.unknown, session)

/-- What is done with the mark of a number, if there is one. -/
def withMark (session : Session Place Mark) (mark : Nat)
    (act : Mark → CursorAnswer × Session Place Mark) : CursorAnswer × Session Place Mark :=
  match session.marks[mark]? with
  | some place => act place
  | none => (.unknown, session)

/-- The session with other cursors and marks in the places of its own. -/
def map (place : Place → Place') (mark : Mark → Mark') (session : Session Place Mark) :
    Session Place' Mark' :=
  ⟨session.cursors.map place, session.marks.map mark⟩

end Session

namespace Navigator

/-- The answer to an action, and the session after it. -/
def step (navigator : Navigator Place Mark) (session : Session Place Mark) :
    CursorAction → CursorAnswer × Session Place Mark
  | .next cursor => session.withCursor cursor fun place =>
      match navigator.next? place with
      | some (c, later) => (.character (some c), session.move cursor later)
      | none => (.character none, session)
  | .peek cursor => session.withCursor cursor fun place =>
      (.character (navigator.at? place), session)
  | .toEnd cursor => session.withCursor cursor fun place =>
      (.done, session.move cursor (navigator.toEnd place))
  | .advance bytes cursor => session.withCursor cursor fun place =>
      match navigator.advance? bytes place with
      | some later => (.truth true, session.move cursor later)
      | none => (.truth false, session)
  | .save cursor => session.withCursor cursor fun place =>
      (.done, { session with marks := session.marks ++ [navigator.save place] })
  | .restore mark cursor => session.withMark mark fun mark => session.withCursor cursor fun place =>
      (.done, session.move cursor (navigator.restore mark place))
  | .isAt mark cursor => session.withMark mark fun mark => session.withCursor cursor fun place =>
      (.truth (navigator.isAt mark place), session)
  | .textBetween mark cursor => session.withMark mark fun mark =>
      session.withCursor cursor fun place => (.text (navigator.textBetween mark place), session)
  | .compare mark other => session.withMark mark fun mark => session.withMark other fun other =>
      (.order (navigator.compare mark other), session)
  | .clone cursor => session.withCursor cursor fun place =>
      (.done, { session with cursors := session.cursors ++ [place] })

/-- The answers to actions, one after the other, and the session after all of them. -/
def run (navigator : Navigator Place Mark) (session : Session Place Mark) :
    List CursorAction → List CursorAnswer × Session Place Mark
  | [] => ([], session)
  | action :: actions =>
      let (answer, later) := navigator.step session action
      let (answers, finish) := run navigator later actions
      (answer :: answers, finish)

/-- Each operation does to the images of places and marks what another one does to the places and
marks themselves, and gives the same answer. -/
structure IsImage (navigator : Navigator Place' Mark') (original : Navigator Place Mark)
    (place : Place → Place') (mark : Mark → Mark') : Prop where
  next?_eq : ∀ here, navigator.next? (place here) =
    (original.next? here).map fun found => (found.1, place found.2)
  at?_eq : ∀ here, navigator.at? (place here) = original.at? here
  toEnd_eq : ∀ here, navigator.toEnd (place here) = place (original.toEnd here)
  advance?_eq : ∀ bytes here,
    navigator.advance? bytes (place here) = (original.advance? bytes here).map place
  save_eq : ∀ here, navigator.save (place here) = mark (original.save here)
  restore_eq : ∀ saved here,
    navigator.restore (mark saved) (place here) = place (original.restore saved here)
  isAt_eq : ∀ saved here, navigator.isAt (mark saved) (place here) = original.isAt saved here
  textBetween_eq : ∀ saved here,
    navigator.textBetween (mark saved) (place here) = original.textBetween saved here
  compare_eq : ∀ saved other,
    navigator.compare (mark saved) (mark other) = original.compare saved other

namespace IsImage

variable {navigator : Navigator Place' Mark'} {original : Navigator Place Mark}
  {place : Place → Place'} {mark : Mark → Mark'}

/-- An action on images of cursors. -/
theorem withCursor_map (session : Session Place Mark) (cursor : Nat)
    {act : Place' → CursorAnswer × Session Place' Mark'}
    {act' : Place → CursorAnswer × Session Place Mark}
    (same : ∀ found, act (place found) =
      ((act' found).1, (act' found).2.map place mark)) :
    (session.map place mark).withCursor cursor act =
      ((session.withCursor cursor act').1, (session.withCursor cursor act').2.map place mark) := by
  unfold Session.withCursor
  rw [Session.map, List.getElem?_map]
  cases session.cursors[cursor]? with
  | none => rfl
  | some found => exact same found

/-- An action on images of marks. -/
theorem withMark_map (session : Session Place Mark) (number : Nat)
    {act : Mark' → CursorAnswer × Session Place' Mark'}
    {act' : Mark → CursorAnswer × Session Place Mark}
    (same : ∀ found, act (mark found) = ((act' found).1, (act' found).2.map place mark)) :
    (session.map place mark).withMark number act =
      ((session.withMark number act').1, (session.withMark number act').2.map place mark) := by
  unfold Session.withMark
  rw [Session.map, List.getElem?_map]
  cases session.marks[number]? with
  | none => rfl
  | some found => exact same found

theorem move_map (session : Session Place Mark) (cursor : Nat) (found : Place) :
    (session.map place mark).move cursor (place found) =
      (session.move cursor found).map place mark := by
  simp [Session.move, Session.map, List.map_set]

/-- An action gives the same answer for images, and leads to images. -/
theorem step_map (image : navigator.IsImage original place mark) (session : Session Place Mark)
    (action : CursorAction) :
    navigator.step (session.map place mark) action =
      ((original.step session action).1, (original.step session action).2.map place mark) := by
  cases action with
  | next cursor =>
      refine withCursor_map session cursor fun found => ?_
      rw [image.next?_eq]
      cases original.next? found with
      | none => rfl
      | some next => exact congrArg _ (move_map session cursor next.2)
  | peek cursor =>
      exact withCursor_map session cursor fun found => by rw [image.at?_eq]
  | toEnd cursor =>
      exact withCursor_map session cursor fun found => by rw [image.toEnd_eq, move_map]
  | advance bytes cursor =>
      refine withCursor_map session cursor fun found => ?_
      rw [image.advance?_eq]
      cases original.advance? bytes found with
      | none => rfl
      | some later => exact congrArg _ (move_map session cursor later)
  | save cursor =>
      refine withCursor_map session cursor fun found => ?_
      simp [image.save_eq, Session.map]
  | restore number cursor =>
      exact withMark_map session number fun saved =>
        withCursor_map session cursor fun found => by rw [image.restore_eq, move_map]
  | isAt number cursor =>
      exact withMark_map session number fun saved =>
        withCursor_map session cursor fun found => by rw [image.isAt_eq]
  | textBetween number cursor =>
      exact withMark_map session number fun saved =>
        withCursor_map session cursor fun found => by rw [image.textBetween_eq]
  | compare number other =>
      exact withMark_map session number fun saved =>
        withMark_map session other fun saved' => by rw [image.compare_eq]
  | clone cursor =>
      refine withCursor_map session cursor fun found => ?_
      simp [Session.map]

/-- A run gives the same answers for images, and ends in images. -/
theorem run_map (image : navigator.IsImage original place mark) (session : Session Place Mark)
    (actions : List CursorAction) :
    navigator.run (session.map place mark) actions =
      ((original.run session actions).1, (original.run session actions).2.map place mark) := by
  induction actions generalizing session with
  | nil => rfl
  | cons action actions ih => simp only [run, image.step_map, ih]

end IsImage

end Navigator

end TextGrammar
