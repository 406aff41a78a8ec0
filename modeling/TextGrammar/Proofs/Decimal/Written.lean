import TextGrammar.Decimal
import TextGrammar.Proofs.Text.Delimited

/-!
# Decimals as they are written

A decimal is written with its sign, also if it is a zero, and with as many digits after the point as its
scale says, so the scale can be seen as well as the size, whose digits are all there.
-/

namespace TextGrammar.Decimal

open Text

attribute [ext] Decimal

end TextGrammar.Decimal
