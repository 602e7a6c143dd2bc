import Flowchart.Number.Binary64
import Flowchart.Text.Basic

/-!
JSON values. Whole numbers and floating-point numbers are kept apart, and the members of an object
keep their order.
-/

namespace Flowchart

inductive Json where
  | null
  | bool (value : Bool)
  | int (value : Int)
  | float (value : Binary64)
  | str (text : Text)
  | arr (items : List Json)
  | obj (members : List (Text × Json))
  deriving Inhabited

namespace Json

/-- The member of an object, the first one if the name is repeated. -/
def member? (members : List (Text × Json)) (name : Text) : Option Json :=
  members.lookup name

/-- The empty and zero values: they stand for something left out. -/
def isVacant : Json → Bool
  | .null => true
  | .bool value => !value
  | .int value => value == 0
  | .float value => value.isZero
  | .str text => text.codes.isEmpty
  | .arr items => items.isEmpty
  | .obj members => members.isEmpty

/-- A text, or null. -/
def ofText? : Option Text → Json
  | some text => .str text
  | none => .null

def ofTexts (texts : List Text) : Json :=
  .arr (texts.map .str)

theorem sizeOf_member_lt {members : List (Text × Json)} {name : Text} {value : Json}
    (found : member? members name = some value) : sizeOf value < sizeOf members := by
  induction members with
  | nil => simp [member?] at found
  | cons entry rest inductionHypothesis =>
      obtain ⟨key, first⟩ := entry
      rw [member?, List.lookup_cons] at found
      split at found
      · simp only [Option.some.injEq] at found
        subst found
        simp only [List.cons.sizeOf_spec, Prod.mk.sizeOf_spec]
        omega
      · have smaller := inductionHypothesis found
        simp only [List.cons.sizeOf_spec]
        omega

end Json

end Flowchart
