import Flowchart.Json.Basic

/-!
What can be wrong with a JSON value that is read as something else, and where.
-/

namespace Flowchart

/-- One step of the way into a value. -/
inductive Step where
  | name (text : Text)
  | index (place : Nat)
  /-- Not a step to another value: the value is taken for one of several kinds. -/
  | variant (kind : Text)
  deriving DecidableEq, Repr

inductive Fault where
  | missing
  | notText
  | notFlag
  | unreadableFlag
  | notNumber
  | unreadableNumber
  | notWhole
  | unreadableWhole
  | fractional
  | outOfRange
  | notFinite
  | notOneOf (choices : List Text)
  | notRow
  | notList
  | notMap
  | notModel (model : Text)
  | notMembers
  | noTag
  | unknownTag (tag : Text) (expected : List Text)
  | refused (reason : Text)
  | frozen
  | malformed
  deriving DecidableEq, Repr

namespace Fault

def quotedChoices (choices : List Text) (last : Text) : Text :=
  last.intercalate (choices.map fun choice => "'" ++ choice ++ "'")

def code : Fault → Text
  | missing => "missing"
  | notText => "string_type"
  | notFlag => "bool_type"
  | unreadableFlag => "bool_parsing"
  | notNumber => "float_type"
  | unreadableNumber => "float_parsing"
  | notWhole => "int_type"
  | unreadableWhole => "int_parsing"
  | fractional => "int_from_float"
  | outOfRange => "int_parsing_size"
  | notFinite => "finite_number"
  | notOneOf _ => "literal_error"
  | notRow => "tuple_type"
  | notList => "list_type"
  | notMap => "dict_type"
  | notModel _ => "model_type"
  | notMembers => "model_attributes_type"
  | noTag => "union_tag_not_found"
  | unknownTag _ _ => "union_tag_invalid"
  | refused _ => "value_error"
  | frozen => "frozen_instance"
  | malformed => "json_invalid"

def message : Fault → Text
  | missing => "Field required"
  | notText => "Input should be a valid string"
  | notFlag => "Input should be a valid boolean"
  | unreadableFlag => "Input should be a valid boolean, unable to interpret input"
  | notNumber => "Input should be a valid number"
  | unreadableNumber => "Input should be a valid number, unable to parse string as a number"
  | notWhole => "Input should be a valid integer"
  | unreadableWhole => "Input should be a valid integer, unable to parse string as an integer"
  | fractional => "Input should be a valid integer, got a number with a fractional part"
  | outOfRange => "Unable to parse input string as an integer, exceeded maximum size"
  | notFinite => "Input should be a finite number"
  | notOneOf choices => "Input should be " ++ quotedChoices choices " or "
  | notRow => "Input should be a valid tuple"
  | notList => "Input should be a valid list"
  | notMap => "Input should be a valid dictionary"
  | notModel model => "Input should be a valid dictionary or instance of " ++ model
  | notMembers => "Input should be a valid dictionary or object to extract fields from"
  | noTag => "Unable to extract tag using discriminator 'type'"
  | unknownTag tag expected =>
      "Input tag '" ++ tag ++ "' found using 'type' does not match any of the expected tags: " ++
        quotedChoices expected ", "
  | refused reason => "Value error, " ++ reason
  | frozen => "Instance is frozen"
  | malformed => "JSON decode error"

end Fault

/-- A fault and the way to the value that has it. The way to a missing member goes on to where it
should be. -/
structure Flaw where
  place : List Step
  fault : Fault
  deriving DecidableEq, Repr

/-- A flaw of a part, told from the whole. -/
def Flaw.under (step : Step) (flaw : Flaw) : Flaw :=
  { flaw with place := step :: flaw.place }

/-- The last value on a way into a value, as far as the way goes on to what is there. -/
def Json.follow (value : Json) : List Step → Json
  | [] => value
  | .name text :: rest =>
      match value with
      | .obj members =>
          match member? members text with
          | some value => value.follow rest
          | none => value
      | _ => value
  | .index place :: rest =>
      match value with
      | .arr items =>
          match items[place]? with
          | some value => value.follow rest
          | none => value
      | _ => value
  | .variant _ :: rest => value.follow rest

end Flowchart
