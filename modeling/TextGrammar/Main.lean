import TextGrammar.Meetings

/-!
# Trying the samples

The program reads the samples of lists of meetings and says nothing if all are read as they should
be. Otherwise it names those that are not and ends with an error.
-/

open TextGrammar

/-- Reads all samples. -/
def main : IO UInt32 := do
  let wrong := Meeting.samples.filter fun sample => !Meeting.sampleHolds sample
  for sample in wrong do
    IO.eprintln ("not read as expected: " ++ Text.quoteText sample.1)
  return if wrong.isEmpty then 0 else 1
