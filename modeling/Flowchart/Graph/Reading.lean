import Flowchart.Graph.Kind
import Flowchart.Reading.Scalar
import Flowchart.Refusal
import Flowchart.Text.LetterCase

/-!
Reading nodes, edges and graphs from JSON. Members that are not known are passed over. A payload
without a type takes the type that belongs to the node's canvas type. Where a value comes from
decides only how a wrong container is reported.
-/

namespace Flowchart

open Reading

namespace PropertyType

def name : PropertyType → Text
  | .string => "string"
  | .number => "number"

def named : List (Text × PropertyType) :=
  [("string", .string), ("number", .number)]

/-- A property type, in any case of letters. -/
def read : Json → Reading PropertyType
  | .str text => oneOf named (.str (lower text))
  | value => oneOf named value

end PropertyType

def InputProperty.read (source : Source) : Json → Reading InputProperty :=
  object (source.notModel "InputProperty") fun members =>
    InputProperty.mk <$> fieldOr members "id" "" text
      <*> field members "name" text
      <*> fieldOr members "type" .string PropertyType.read
      <*> fieldOr members "required" false flag

def Binding.read (source : Source) : Json → Reading Binding :=
  object (source.notModel "ParameterBinding") fun members =>
    Binding.mk <$> fieldOr members "id" "" text
      <*> field members "parameter" text
      <*> fieldOr members "expression" "" text

def BranchRow.read (source : Source) : Json → Reading BranchRow :=
  object (source.notModel "BranchDeclaration") fun members =>
    BranchRow.mk <$> field members "id" text
      <*> fieldOr members "label" "" text
      <*> fieldOr members "expression" "" text

namespace Payload

/-- The type that a payload may state for itself. -/
def statedType (members : List (Text × Json)) (kind : Kind) : Reading Unit :=
  fieldOr members "type" () (oneOf [(kind.name, ())])

def readInput (source : Source) (members : List (Text × Json)) :
    Reading (List InputProperty) :=
  (fun _ properties => properties) <$> statedType members .input
    <*> fieldOr members "properties" [] (array .notRow (InputProperty.read source))

def readMembers (source : Source) (members : List (Text × Json)) : Kind → Reading Payload
  | .input => Payload.input <$> readInput source members
  | .action =>
      (fun _ name bindings => Payload.action name bindings) <$> statedType members .action
        <*> fieldOr members (spelling members "actionName" "action_name") none (nullable text)
        <*> fieldOr members "inputs" [] (array .notRow (Binding.read source))
  | .condition =>
      (fun _ rows => Payload.condition rows) <$> statedType members .condition
        <*> fieldOr members "conditions" [] (array .notRow (BranchRow.read source))

/-- A payload is of the kind that its type names; flaws are told under that name. -/
def read (source : Source) : Json → Reading Payload :=
  object .notMembers fun members =>
    match Json.member? members "type" with
    | none => fault .noTag
    | some tag =>
        let kind? :=
          match tag with
          | .str name => Kind.ofName? name
          | _ => none
        match kind? with
        | some kind => (readMembers source members kind).under (.variant kind.name)
        | none => fault (.unknownTag tag.cited (Kind.all.map Kind.name))

end Payload

namespace Node

/-- Where a node stands unless something else is said. -/
def origin : Keyed Binary64 :=
  Keyed.ofList [("x", .zero), ("y", .zero)]

/-- The kind that a node's canvas type is registered for. -/
def registeredKind? (members : List (Text × Json)) : Option Kind :=
  match Json.member? members "type" with
  | some (.str canvasType) => Kind.ofCanvasType? canvasType
  | _ => none

/-- Gives a payload that is an object without a type the type of the node's canvas type. -/
def tagPayload (members : List (Text × Json)) : List (Text × Json) :=
  match Json.member? members "data", registeredKind? members with
  | some (.obj payload), some kind =>
      if (Json.member? payload "type").isSome then members
      else putEntry "data" (.obj (payload ++ [(("type" : Text), .str kind.name)])) members
  | _, _ => members

def readMembers (source : Source) (members : List (Text × Json)) : Reading Node :=
  Node.mk <$> field members "id" text
    <*> fieldOr members "type" none (nullable text)
    <*> fieldOr members "position" origin (keyed number)
    <*> field members "data" (Payload.read source)

/-- Reads a node whose payload need not state its type. -/
def readTagged (source : Source) (members : List (Text × Json)) : Reading Node :=
  readMembers source (tagPayload members)

def read (source : Source) : Json → Reading Node :=
  object (source.notModel "FlowNode") (readTagged source)

/-- The container that stands in place of a node's canvas type and cannot be looked up. -/
def unusableType? : Json → Option Container
  | .obj members =>
      match Json.member? members "type" with
      | some (.arr (_ :: _)) => some .list
      | some (.obj (_ :: _)) => some .object
      | _ => none
  | _ => none

def load (value : Json) : Except Refusal Node :=
  match unusableType? value with
  | some container => .error (.unusableCanvasType container)
  | none => (read .caller value).toExcept.mapError (.invalid "FlowNode")

end Node

namespace Edge

def readMembers (members : List (Text × Json)) : Reading Edge :=
  Edge.mk <$> fieldOr members "id" none (nullable text)
    <*> field members "source" text
    <*> field members "target" text
    <*> fieldOr members (spelling members "sourceHandle" "source_handle") none (nullable text)
    <*> fieldOr members (spelling members "targetHandle" "target_handle") none (nullable text)

def read (source : Source) : Json → Reading Edge :=
  object (source.notModel "FlowEdge") readMembers

def load (value : Json) : Except Refusal Edge :=
  (read .caller value).toExcept.mapError (.invalid "FlowEdge")

end Edge

namespace Graph

def readMembers (source : Source) (members : List (Text × Json)) : Reading Graph :=
  Graph.mk <$> fieldOr members "nodes" [] (array source.notCollection (Node.read source))
    <*> fieldOr members "edges" [] (array source.notCollection (Edge.read source))

def read (source : Source) : Json → Reading Graph :=
  object (source.notModel "FlowGraph") (readMembers source)

/-- The first container in place of a node's canvas type. -/
def unusableType? : Json → Option Container
  | .obj members =>
      match Json.member? members "nodes" with
      | some (.arr nodes) => nodes.findSome? Node.unusableType?
      | _ => none
  | _ => none

def load (value : Json) : Except Refusal Graph :=
  match unusableType? value with
  | some container => .error (.unusableCanvasType container)
  | none => (read .caller value).toExcept.mapError (.invalid "FlowGraph")

/-- The items of a collection as the canvas hands it over: nothing for a vacant value, the
code points of a text, the names of an object. -/
def collection : Json → Except Refusal (List Json)
  | .null => .ok []
  | .bool value => if value then .error (.notIterable .bool) else .ok []
  | .int value => if value = 0 then .ok [] else .error (.notIterable .int)
  | .float value => if value.isZero then .ok [] else .error (.notIterable .float)
  | .str text => .ok (text.codes.map fun c => .str ⟨[c]⟩)
  | .arr items => .ok items
  | .obj members => .ok (members.map fun entry => .str entry.1)

def ofItems (nodes edges : List Json) : Except Refusal Graph :=
  load (.obj [("nodes", .arr nodes), ("edges", .arr edges)])

/-- Reads a graph from the canvas's collections of nodes and edges. -/
def ofCanvas (nodes edges : Json) : Except Refusal Graph := do
  ofItems (← collection nodes) (← collection edges)

end Graph

end Flowchart
