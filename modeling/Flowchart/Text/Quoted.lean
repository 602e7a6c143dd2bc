import Flowchart.Text.Hex
import Flowchart.Text.Printable

/-!
Quoted text as it is shown inside messages: single quotes unless the text holds a single quote
and no double one, backslash escapes for the quote, the backslash and every code point that is
not printable.
-/

namespace Flowchart

/-- A backslash with a mark and the digits of a code point. -/
def numberEscape (mark : Char) (width : Nat) (c : Code) : List Code :=
  ('\\' :: mark :: hexDigits width c.toNat).map .char

/-- How one code point is written between the quotes `quote`. -/
def quotedCode (quote : Code) (c : Code) : List Code :=
  if c = quote ∨ c = '\\' then ['\\', c]
  else if c = '\n' then ['\\', 'n']
  else if c = '\r' then ['\\', 'r']
  else if c = '\t' then ['\\', 't']
  else if isPrintable c then [c]
  else if c.toNat < 0x100 then numberEscape 'x' 2 c
  else if c.toNat < 0x10000 then numberEscape 'u' 4 c
  else numberEscape 'U' 8 c

/-- The quote mark that a text is put between. -/
def quoteFor (cs : List Code) : Code :=
  if .char '\x27' ∈ cs ∧ .char '"' ∉ cs then '"' else '\x27'

/-- A text between quotes. -/
def quoted (text : Text) : Text :=
  let quote := quoteFor text.codes
  ⟨quote :: text.codes.flatMap (quotedCode quote) ++ [quote]⟩

end Flowchart
