import Flowchart.Json.Basic

/-!
Values for readers that know no infinite numbers.
-/

namespace Flowchart.Json

mutual

/-- A value with null in place of numbers that are not finite. -/
def finite : Json → Json
  | .float value => if value.isFinite then .float value else .null
  | .arr items => .arr (finiteItems items)
  | .obj members => .obj (finiteMembers members)
  | value => value

def finiteItems : List Json → List Json
  | [] => []
  | item :: rest => finite item :: finiteItems rest

def finiteMembers : List (Text × Json) → List (Text × Json)
  | [] => []
  | (name, value) :: rest => (name, finite value) :: finiteMembers rest

end

end Flowchart.Json
