import Flowchart.Graph.Reading

/-!
What the canvas offers: the kinds of nodes, their connection points, fresh nodes, and the graph
that a new canvas holds.
-/

namespace Flowchart

/-- A point of a node that edges can leave from. Nodes other than conditions have a single one
without a name. -/
structure Handle where
  id : Option Text
  label : Option Text
  deriving DecidableEq, Repr

def Handle.toJson (handle : Handle) : Json :=
  .obj [("id", .ofText? handle.id), ("label", .ofText? handle.label)]

/-- The connection points of a node, in the order in which they are drawn. -/
def Node.handles (node : Node) : List Handle :=
  match node.payload with
  | .condition rows =>
      ⟨some defaultHandle, some "Default Branch"⟩ ::
        rows.map fun row => ⟨some row.id, some row.label⟩
  | _ => [⟨none, none⟩]

def Kind.toJson (kind : Kind) : Json :=
  .obj [("kind", .str kind.name), ("canvas_type", .str kind.canvasType),
    ("label", .str kind.label), ("droppable", .bool kind.isDroppable)]

def Payload.fresh : Kind → Payload
  | .input => .input []
  | .action => .action none []
  | .condition => .condition []

def Kind.load : Json → Except Refusal Kind
  | .str name =>
      match Kind.ofName? name with
      | some kind => .ok kind
      | none => .error (.unknownKind (.str name))
  | value => .error (.unknownKind value)

namespace Node

/-- A node as it comes from the palette. Without a single coordinate it stands at the origin. -/
def fresh (id : Text) (kind : Kind) (place : Keyed Binary64) : Node where
  id := id
  canvasType := some kind.canvasType
  position := if place.entries = [] then origin else place
  payload := .fresh kind

/-- The place that a fresh node is asked for; a vacant value asks for none. -/
def loadPlace (position : Json) : Except Refusal (Keyed Binary64) :=
  if position.isVacant then .ok Keyed.empty
  else
    ((Reading.keyed Reading.number position).under (.name "position")).toExcept.mapError
      (.invalid "FlowNode")

/-- A fresh node of a kind that can be dropped from the palette. -/
def create (id : Text) (kind : Kind) (position : Json) : Except Refusal Node :=
  if kind.isDroppable then (loadPlace position).map (fresh id kind)
  else .error (.notDroppable kind)

end Node

/-- What a new canvas holds: an input node and nothing else. -/
def Graph.initial : Graph where
  nodes :=
    [{ id := "input"
       canvasType := some Kind.input.canvasType
       position := Keyed.ofList [("x", .ofRatio false 250 1), ("y", .ofRatio false 20 1)]
       payload := .fresh .input }]
  edges := []

end Flowchart
