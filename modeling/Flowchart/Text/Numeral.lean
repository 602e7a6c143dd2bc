import Flowchart.Text.Basic

/-!
Counts as text.
-/

namespace Flowchart

def numeral (n : Nat) : Text :=
  .ofChars (Nat.toDigits 10 n)

@[simp]
theorem isUnicode_numeral (n : Nat) : (numeral n).isUnicode = true :=
  Text.isUnicode_ofChars _

end Flowchart
