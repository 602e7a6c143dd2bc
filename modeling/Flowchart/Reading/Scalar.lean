import Flowchart.Number.Decimal
import Flowchart.Reading.Basic
import Flowchart.Text.Blank

/-!
Readings of single values. Numbers and flags are also taken from other values that plainly mean
them: a flag from 0 and 1 or a word, a number from a numeral, either from the other.
-/

namespace Flowchart.Reading

def text : Json → Reading Text
  | .str text => accepted text
  | _ => fault .notText

def oneOf {α : Type} (choices : List (Text × α)) (value : Json) : Reading α :=
  let chosen :=
    match value with
    | .str text => choices.lookup text
    | _ => none
  match chosen with
  | some meaning => accepted meaning
  | none => fault (.notOneOf (choices.map Prod.fst))

/-! ## Whole numbers and flags -/

/-- The first whole number beyond the signed 64-bit ones. -/
def wordEnd : Int := 0x8000000000000000

/-- Whether a number lies strictly between the ends of the 64-bit integers. -/
def inWordRange (value : Int) : Bool :=
  -wordEnd < value && value < wordEnd

def wholeOfBinary (value : Binary64) : Reading Int :=
  if value.isFinite then
    match value.toInt? with
    | none => fault .fractional
    | some whole => if inWordRange whole then accepted whole else fault .outOfRange
  else fault .notFinite

/-- Drops underscores that stand alone between other characters; any other use has no meaning. -/
def dropUnderscores? (cs : List Code) : Option (List Code) :=
  if cs.head? = some (.char '_') ∨ cs.getLast? = some (.char '_') ∨ (.char '_', .char '_') ∈ cs.zip cs.tail then none
  else some (cs.filter (· != .char '_'))

/-- Digits, with single underscores among them, and then only zeros after a point. -/
def numeralOfWhole? (cs : List Code) : Option Nat := do
  let whole := cs.takeWhile (· != .char '.')
  let fraction := cs.dropWhile (· != .char '.')
  let digits ← dropUnderscores? whole
  if digits ≠ [] ∧ digits.all Code.isDigit ∧ fraction ≠ [.char '.'] ∧ fraction.tail.all (· == .char '0') then
    some (numberOfDigits digits)
  else none

/-- A whole number from a numeral, blanks around it apart. -/
def wholeOfText (text : Text) : Reading Int :=
  let (negative, digits) := spanSign (trimBy isWhiteSpace text.codes)
  match numeralOfWhole? digits with
  | none => fault .unreadableWhole
  | some size =>
      if maxDigits < (Nat.toDigits 10 size).length then fault .outOfRange
      else accepted (if negative then -(size : Int) else size)

def whole : Json → Reading Int
  | .int value => accepted value
  | .bool value => accepted (if value then 1 else 0)
  | .float value => wholeOfBinary value
  | .str text => wholeOfText text
  | _ => fault .notWhole

def trueWords : List Text := ["1", "t", "y", "true", "yes", "on"]

def falseWords : List Text := ["0", "f", "n", "false", "no", "off"]

def flagOfText? (text : Text) : Option Bool :=
  let word : Text := ⟨text.codes.map (Code.map Char.toLower)⟩
  if word ∈ trueWords then some true
  else if word ∈ falseWords then some false
  else none

def flagOfWhole (value : Int) : Reading Bool :=
  if value = 0 then accepted false
  else if value = 1 then accepted true
  else if -wordEnd ≤ value ∧ value < wordEnd then fault .unreadableFlag
  else fault .notFlag

def flag : Json → Reading Bool
  | .bool value => accepted value
  | .int value => flagOfWhole value
  | .float value =>
      match wholeOfBinary value with
      | accepted whole => flagOfWhole whole
      | flawed _ => fault .notFlag
  | .str text =>
      match flagOfText? text with
      | some value => accepted value
      | none => fault .unreadableFlag
  | _ => fault .notFlag

/-! ## Numbers -/

/-- The words for what is not finite, in any case. -/
def nonFinite? (negative : Bool) (cs : List Code) : Option Binary64 :=
  let word : Text := ⟨cs.map (Code.map Char.toLower)⟩
  if word = "inf" ∨ word = "infinity" then some (.infinite negative)
  else if word = "nan" then some .nan
  else none

/-- The number that a numeral without blanks stands for. -/
def numeral? (cs : List Code) : Option Binary64 :=
  let (negative, unsigned) := spanSign cs
  (nonFinite? negative unsigned).or
    ((Decimal.ofUnsigned? negative unsigned).map Decimal.toBinary64)

/-- The number that a text stands for. Blanks may surround a numeral, or single underscores may
divide it, but not both. -/
def numberOfText? (text : Text) : Option Binary64 :=
  (numeral? (trimBy isWhiteSpace text.codes)).or ((dropUnderscores? text.codes).bind numeral?)

def number : Json → Reading Binary64
  | .float value => accepted value
  | .bool value => accepted (Binary64.ofRatio false (if value then 1 else 0) 1)
  | .int value =>
      match Binary64.ofInt? value with
      | some nearest => accepted nearest
      | none => fault .notNumber
  | .str text =>
      match numberOfText? text with
      | some value => accepted value
      | none => fault .unreadableNumber
  | _ => fault .notNumber

end Flowchart.Reading
