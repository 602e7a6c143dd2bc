import Flowchart.Text.Basic
import Flowchart.Text.CodeRange

/-!
Blank characters and trimming. Two sets of blanks are in use: the Unicode white space, and that
set with the four information separators U+001C to U+001F.
-/

namespace Flowchart

/-- The characters with the Unicode property White_Space. -/
def whiteSpaceRanges : List (Nat × Nat) :=
  [(0x9, 0xd), (0x20, 0x20), (0x85, 0x85), (0xa0, 0xa0), (0x1680, 0x1680), (0x2000, 0x200a),
   (0x2028, 0x2029), (0x202f, 0x202f), (0x205f, 0x205f), (0x3000, 0x3000)]

def isWhiteSpace (c : Code) : Bool :=
  inRanges whiteSpaceRanges c.toNat

/-- White space or an information separator. -/
def isBlank (c : Code) : Bool :=
  isWhiteSpace c || inRanges [(0x1c, 0x1f)] c.toNat

/-- The code points between the first and the last one that fails `skip`. -/
def trimBy (skip : Code → Bool) (cs : List Code) : List Code :=
  ((cs.dropWhile skip).reverse.dropWhile skip).reverse

/-- A text without the blanks at its ends. -/
def strip (text : Text) : Text :=
  ⟨trimBy isBlank text.codes⟩

/-- A text of blanks only. -/
def isBlankText (text : Text) : Bool :=
  text.codes.all isBlank

end Flowchart
