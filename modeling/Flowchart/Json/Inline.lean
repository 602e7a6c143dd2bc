import Flowchart.Json.Basic
import Flowchart.Json.Printer
import Flowchart.Number.Shortest
import Flowchart.Text.Quoted

/-!
How a JSON value is named inside a message: words with a capital, quoted texts, brackets and
braces.
-/

namespace Flowchart.Json

mutual

/-- A value as it stands inside a message. -/
def inline : Json → Text
  | .null => "None"
  | .bool true => "True"
  | .bool false => "False"
  | .int value => ⟨writeInt value⟩
  | .float value => value.text "nan" "inf"
  | .str text => quoted text
  | .arr items => "[" ++ Text.intercalate ", " (inlineItems items) ++ "]"
  | .obj members => "\x7b" ++ Text.intercalate ", " (inlineMembers members) ++ "\x7d"

def inlineItems : List Json → List Text
  | [] => []
  | item :: rest => inline item :: inlineItems rest

def inlineMembers : List (Text × Json) → List Text
  | [] => []
  | (name, value) :: rest => (quoted name ++ ": " ++ inline value) :: inlineMembers rest

end

/-- A value as it is cited: a text stands for itself, as far as it is made of characters. -/
def cited : Json → Text
  | .str text => text.withoutSurrogates
  | value => value.inline

end Flowchart.Json
