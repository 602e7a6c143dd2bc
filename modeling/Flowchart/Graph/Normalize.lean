import Flowchart.Graph.Basic
import Flowchart.Text.Blank

/-!
Tidying a graph: rows whose name, parameter or label is blank are dropped, as they are when a
node's form is saved.
-/

namespace Flowchart

def Payload.normalize : Payload → Payload
  | .input properties => .input (properties.filter fun property => !isBlankText property.name)
  | .action name bindings =>
      .action name (bindings.filter fun binding => !isBlankText binding.parameter)
  | .condition rows => .condition (rows.filter fun row => !isBlankText row.label)

def Node.normalize (node : Node) : Node :=
  { node with payload := node.payload.normalize }

def Graph.normalize (graph : Graph) : Graph :=
  { graph with nodes := graph.nodes.map Node.normalize }

@[simp]
theorem Node.id_normalize (node : Node) : node.normalize.id = node.id := rfl

@[simp]
theorem Payload.kind_normalize (payload : Payload) : payload.normalize.kind = payload.kind := by
  cases payload <;> rfl

@[simp]
theorem Payload.normalize_normalize (payload : Payload) :
    payload.normalize.normalize = payload.normalize := by
  cases payload <;> simp [Payload.normalize]

@[simp]
theorem Node.normalize_normalize (node : Node) : node.normalize.normalize = node.normalize := by
  simp [Node.normalize]

/-- Tidying twice changes nothing more. -/
theorem Graph.normalize_normalize (graph : Graph) :
    graph.normalize.normalize = graph.normalize := by
  simp [Graph.normalize]

end Flowchart
