import Flowchart.Graph.Reading

/-!
Graphs as JSON values, every member written.
-/

namespace Flowchart

def InputProperty.toJson (property : InputProperty) : Json :=
  .obj [("id", .str property.id), ("name", .str property.name),
    ("type", .str property.type.name), ("required", .bool property.required)]

def Binding.toJson (binding : Binding) : Json :=
  .obj [("id", .str binding.id), ("parameter", .str binding.parameter),
    ("expression", .str binding.expression)]

def BranchRow.toJson (row : BranchRow) : Json :=
  .obj [("id", .str row.id), ("label", .str row.label), ("expression", .str row.expression)]

def Payload.toJson (payload : Payload) : Json :=
  let type : Text × Json := ("type", .str payload.kind.name)
  match payload with
  | .input properties => .obj [type, ("properties", .arr (properties.map InputProperty.toJson))]
  | .action name bindings =>
      .obj [type, ("actionName", .ofText? name), ("inputs", .arr (bindings.map Binding.toJson))]
  | .condition rows => .obj [type, ("conditions", .arr (rows.map BranchRow.toJson))]

def Node.toJson (node : Node) : Json :=
  .obj [("id", .str node.id), ("type", .ofText? node.canvasType),
    ("position", .obj (node.position.entries.map fun entry => (entry.1, .float entry.2))),
    ("data", node.payload.toJson)]

def Edge.toJson (edge : Edge) : Json :=
  .obj [("id", .ofText? edge.id), ("source", .str edge.source), ("target", .str edge.target),
    ("sourceHandle", .ofText? edge.sourceHandle), ("targetHandle", .ofText? edge.targetHandle)]

def Graph.toJson (graph : Graph) : Json :=
  .obj [("nodes", .arr (graph.nodes.map Node.toJson)),
    ("edges", .arr (graph.edges.map Edge.toJson))]

/-- An item of a collection as a program hands it over: raw, or a model, which counts as what is
written for it. -/
inductive CanvasItem (α : Type) where
  | raw (value : Json)
  | model (item : α)

def CanvasItem.toJson {α : Type} (write : α → Json) : CanvasItem α → Json
  | raw value => value
  | model item => write item

/-- Reads a graph from collections in which raw items and models may stand side by side. -/
def Graph.ofCanvasItems (nodes : List (CanvasItem Node)) (edges : List (CanvasItem Edge)) :
    Except Refusal Graph :=
  ofItems (nodes.map (CanvasItem.toJson Node.toJson)) (edges.map (CanvasItem.toJson Edge.toJson))

end Flowchart
