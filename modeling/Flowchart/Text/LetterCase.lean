import Flowchart.Text.Basic
import Flowchart.Text.CodeRange
import Flowchart.Text.LetterCaseTable

/-!
Lower case for all of Unicode: each capital becomes its small letter, a dotted capital I becomes
two characters, and a capital sigma at the end of a word becomes the final small sigma.
-/

namespace Flowchart

/-- The small letter of a capital that has one of a single character. -/
def smallLetter (c : Code) : Code :=
  match capitalRuns.find? (·.has c.toNat) with
  | some run => Code.ofNat (c.toNat + run.shift).toNat
  | none => c

def isCased (c : Code) : Bool :=
  inRanges casedRanges c.toNat

def isCaseIgnorable (c : Code) : Bool :=
  inRanges caseIgnorableRanges c.toNat

/-- Whether the first character that counts is a cased letter. -/
def meetsCased (cs : List Code) : Bool :=
  match cs.dropWhile isCaseIgnorable with
  | c :: _ => isCased c
  | [] => false

/-- Lower case of `cs`, where `before` holds what stands in front of it, nearest first. -/
def lowerAfter (before : List Code) : List Code → List Code
  | [] => []
  | .char 'İ' :: rest => .char 'i' :: .char '\u0307' :: lowerAfter (.char 'İ' :: before) rest
  | .char 'Σ' :: rest =>
      (if meetsCased before && !meetsCased rest then .char 'ς' else .char 'σ') ::
        lowerAfter (.char 'Σ' :: before) rest
  | c :: rest => smallLetter c :: lowerAfter (c :: before) rest

/-- A text in lower case. -/
def lower (text : Text) : Text :=
  ⟨lowerAfter [] text.codes⟩

/-- The capital from A to Z that a character has, if any; every other character stays. -/
def latinCapital (c : Char) : Char :=
  if c = 'ı' then 'I' else if c = 'ſ' then 'S' else c.toUpper

end Flowchart
