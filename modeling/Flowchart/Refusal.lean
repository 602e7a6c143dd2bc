import Flowchart.Graph.Kind
import Flowchart.Json.Inline
import Flowchart.Reading.Flaw

/-!
Why a request to the library is turned down as a whole.
-/

namespace Flowchart

/-- A step as it is told. A name is told as far as it is made of characters. -/
def Step.toJson : Step → Json
  | .name text => .str text.withoutSurrogates
  | .index place => .int place
  | .variant kind => .str kind

def Flaw.toJson (flaw : Flaw) : Json :=
  .obj [("type", .str flaw.fault.code), ("loc", .arr (flaw.place.map Step.toJson)),
    ("msg", .str flaw.fault.message)]

inductive Container where
  | list
  | object
  deriving DecidableEq, Repr

inductive Scalar where
  | bool
  | int
  | float
  deriving DecidableEq, Repr

inductive Refusal where
  /-- A value is not what it should be; the model is what it was read as. -/
  | invalid (model : Text) (flaws : List Flaw)
  /-- A canvas type is a container that is not empty and cannot be looked up. -/
  | unusableCanvasType (container : Container)
  | notIterable (scalar : Scalar)
  | unknownKind (name : Json)
  /-- Nodes of this kind are not made from the palette. -/
  | notDroppable (kind : Kind)

def Container.name : Container → Text
  | list => "list"
  | object => "dict"

def Scalar.name : Scalar → Text
  | bool => "bool"
  | int => "int"
  | float => "float"

/-- The text that tells why a request is turned down. -/
def Refusal.message : Refusal → Text
  | .invalid model _ => model
  | .unusableCanvasType container => "unhashable type: '" ++ container.name ++ "'"
  | .notIterable scalar => "'" ++ scalar.name ++ "' object is not iterable"
  | .unknownKind name => name.inline ++ " is not a valid NodeKind"
  | .notDroppable kind =>
      "Node kind '" ++ kind.name ++ "' cannot be created from the palette"

end Flowchart
