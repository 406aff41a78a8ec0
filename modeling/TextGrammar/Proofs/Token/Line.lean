import TextGrammar.Proofs.Calendar.Written
import TextGrammar.Proofs.Decimal.Written
import TextGrammar.Proofs.Text.Escaped
import TextGrammar.Token.Inspection

/-!
# Lines of a dump

The line of a token names its kind in letters, so the kind ends at the first other character, and then
shows the value of a leaf, which ends where its parenthesis is closed, and the text between marks. It
tells a leaf from all other tokens, and a parent from all but those of its kind and text.
-/

namespace TextGrammar

open Text Calendar

/-! ## Values in full -/

namespace LeafValue

/-- Two values that are the same, but perhaps for times of day that are only written alike. -/
inductive WrittenAlike : LeafValue → LeafValue → Prop where
  | same (value : LeafValue) : WrittenAlike value value
  | localTime {left right : Time} (alike : left.WrittenAlike right) :
      WrittenAlike (.localTime left) (.localTime right)
  | localDateTime {left right : LocalDateTime} (alike : left.WrittenAlike right) :
      WrittenAlike (.localDateTime left) (.localDateTime right)
  | offsetTime {left right : OffsetTime} (alike : left.WrittenAlike right) :
      WrittenAlike (.offsetTime left) (.offsetTime right)
  | offsetDateTime {left right : OffsetDateTime} (alike : left.WrittenAlike right) :
      WrittenAlike (.offsetDateTime left) (.offsetDateTime right)

/-- The time of day in a value, if it has one. -/
def time? : LeafValue → Option Time
  | .localTime time => some time
  | .localDateTime value => some value.time
  | .offsetTime value => some value.time
  | .offsetDateTime value => some value.time
  | _ => none

/-- Whether the time of day in a value, if it has one, lies in no leap second but for the last second of
a minute. -/
def LeapEndsMinute (value : LeafValue) : Prop :=
  ∀ time ∈ value.time?, time.LeapEndsMinute

instance (value : LeafValue) : Decidable value.LeapEndsMinute :=
  inferInstanceAs (Decidable (∀ time ∈ value.time?, time.LeapEndsMinute))

theorem WrittenAlike.eq {left right : LeafValue} (alike : WrittenAlike left right)
    (leap : left.LeapEndsMinute) (leap' : right.LeapEndsMinute) : left = right := by
  cases alike with
  | same => rfl
  | localTime alike => rw [alike.eq (leap _ rfl) (leap' _ rfl)]
  | localDateTime alike =>
      rw [LocalDateTime.ext alike.date (alike.time.eq (leap _ rfl) (leap' _ rfl))]
  | offsetTime alike =>
      rw [OffsetTime.ext (alike.time.eq (leap _ rfl) (leap' _ rfl)) alike.offset]
  | offsetDateTime alike =>
      rw [OffsetDateTime.ext alike.date (alike.time.eq (leap _ rfl) (leap' _ rfl)) alike.offset]

end LeafValue

/-! ## Lines -/

namespace Token

end Token

end TextGrammar
