import TextGrammar.Grammar
import TextGrammar.Token.Visitor

/-!
# Lists of meetings

A list of meetings has a line for each: the name of the meeting, which is one word, and the time at
which it begins, with its offset from UTC. Such lists are read with a grammar, and the meetings are
collected from the token tree by a visitor.
-/

namespace TextGrammar

open Calendar

/-- A meeting and when it begins. -/
structure Meeting where
  name : String
  time : OffsetTime
  deriving DecidableEq, Repr

/-- Why a text is no list of meetings. -/
inductive MeetingError where
  | unreadable (error : ParseError)
  | noMeetings
  deriving DecidableEq, Repr

/-- The message for people. -/
def MeetingError.message : MeetingError → String
  | .unreadable error => error.message
  | .noMeetings => "no meetings"

namespace Meeting

/-- The grammar of a meeting. A name must be followed by a time. -/
def grammar : Grammar :=
  .sequence [
    .required (.leaf (.run .letter 1 none)),
    .required (.orReport .basic (.leaf .whitespace)),
    .required (.orReport .basic
      (.leaf (.dateTime .offsetTime (.fixed "%H:%M:%S%:z"))))]

/-- The grammar of a list of meetings, which must be the whole text. -/
def listGrammar : Grammar :=
  .orFailIfTextRemains .basic
    (.repeated 0 (.sequence [.required grammar, .optional (.leaf (.symbol "\n"))]))

/-- The meetings that a visitor has met, and the name for which no time has followed yet. -/
structure Collection where
  name : Option String
  meetings : List Meeting

/-- A visitor that collects meetings: a time belongs to the name before it. -/
def collector : Visitor Collection where
  visitLeaf value _ collection :=
    match value, collection.name with
    | .string name, _ => { collection with name := some name }
    | .offsetTime time, some name => ⟨none, collection.meetings ++ [⟨name, time⟩]⟩
    | _, _ => collection

/-- The meetings in a token tree. -/
def ofToken (token : Token) : List Meeting :=
  (token.accept collector ⟨none, []⟩).meetings

/-- The reply of the grammar to a list of meetings. -/
def parseList (text : String) : Reply Token :=
  listGrammar.parse (.english 2000) (.ofText text)

/-- The meetings of a list. -/
def readList (text : String) : Except MeetingError (List Meeting) :=
  match (parseList text).outcome with
  | .matched token => .ok (ofToken token)
  | .noMatch => .error .noMeetings
  | .failed error => .error (.unreadable error)

/-- The name and the time of a meeting as they are written. -/
def display (meeting : Meeting) : String × String :=
  (meeting.name, String.ofList meeting.time.display)

/-- The meetings of a list as they are written, or the message that there are none. -/
def describeList (text : String) : Except String (List (String × String)) :=
  match readList text with
  | .ok meetings => .ok (meetings.map display)
  | .error error => .error error.message

/-- Lists of meetings, and what is read from them. -/
def samples : List (String × Except String (List (String × String))) :=
  [("standup 09:30:00+10:00\nretro 16:00:00-05:00",
      .ok [("standup", "09:30:00+10:00"), ("retro", "16:00:00-05:00")]),
    ("", .ok []),
    ("standup 09:30:00+10:00\nretro 16:00",
      .error "Invalid character '1' at (7,2) expected %H:%M:%S%:z"),
    ("standup", .error "End of text at (8,1)")]

/-- Whether a sample is read as it says. -/
def sampleHolds (sample : String × Except String (List (String × String))) : Bool :=
  match describeList sample.1, sample.2 with
  | .ok found, .ok expected => found == expected
  | .error found, .error expected => found == expected
  | _, _ => false

/-- Whether all samples are read as they say. -/
def samplesHold : Bool :=
  samples.all sampleHolds

end Meeting

end TextGrammar
