import Flowchart.Keyed
import Flowchart.Number.Binary64

/-!
Flowcharts as they are drawn: nodes with a payload, and edges from a node's connection points to
other nodes. Nodes and edges are kept in order, and a look-up takes the first match.
-/

namespace Flowchart

inductive Kind where
  | input
  | action
  | condition
  deriving DecidableEq, Repr

inductive PropertyType where
  | string
  | number
  deriving DecidableEq, Repr

/-- A value that the input node asks for. -/
structure InputProperty where
  id : Text
  name : Text
  type : PropertyType
  required : Bool
  deriving DecidableEq, Repr

/-- An expression for one parameter of an action. -/
structure Binding where
  id : Text
  parameter : Text
  expression : Text
  deriving DecidableEq, Repr

/-- A guarded way out of a condition; its id names the handle that it leaves by. -/
structure BranchRow where
  id : Text
  label : Text
  expression : Text
  deriving DecidableEq, Repr

inductive Payload where
  | input (properties : List InputProperty)
  | action (name : Option Text) (bindings : List Binding)
  | condition (rows : List BranchRow)
  deriving DecidableEq, Repr

def Payload.kind : Payload → Kind
  | .input _ => .input
  | .action .. => .action
  | .condition _ => .condition

structure Node where
  id : Text
  /-- The name under which the canvas draws the node. -/
  canvasType : Option Text
  position : Keyed Binary64
  payload : Payload
  deriving DecidableEq

def Node.kind (node : Node) : Kind :=
  node.payload.kind

def Node.isInput (node : Node) : Bool :=
  node.kind = .input

structure Edge where
  id : Option Text
  source : Text
  target : Text
  sourceHandle : Option Text
  targetHandle : Option Text
  deriving DecidableEq, Repr

structure Graph where
  nodes : List Node
  edges : List Edge
  deriving DecidableEq

namespace Graph

def empty : Graph := ⟨[], []⟩

instance : Inhabited Graph := ⟨empty⟩

/-- The first node with an id. -/
def node? (graph : Graph) (id : Text) : Option Node :=
  graph.nodes.find? (·.id = id)

def outgoing (graph : Graph) (id : Text) : List Edge :=
  graph.edges.filter (·.source = id)

def incoming (graph : Graph) (id : Text) : List Edge :=
  graph.edges.filter (·.target = id)

/-- The first edge that leaves a node by a handle. -/
def edge? (graph : Graph) (source : Text) (handle : Option Text) : Option Edge :=
  graph.edges.find? fun edge => edge.source = source ∧ edge.sourceHandle = handle

def inputs (graph : Graph) : List Node :=
  graph.nodes.filter Node.isInput

theorem mem_of_node? {graph : Graph} {id : Text} {node : Node}
    (found : graph.node? id = some node) : node ∈ graph.nodes :=
  List.mem_of_find?_eq_some found

theorem id_of_node? {graph : Graph} {id : Text} {node : Node}
    (found : graph.node? id = some node) : node.id = id := by
  simpa using List.find?_some found

theorem node?_eq_none_iff {graph : Graph} {id : Text} :
    graph.node? id = none ↔ ∀ node ∈ graph.nodes, node.id ≠ id := by
  simp [node?]

theorem mem_of_edge? {graph : Graph} {source : Text} {handle : Option Text} {edge : Edge}
    (found : graph.edge? source handle = some edge) :
    edge ∈ graph.edges ∧ edge.source = source ∧ edge.sourceHandle = handle := by
  have matched := List.find?_some found
  exact ⟨List.mem_of_find?_eq_some found, by simpa using matched⟩

end Graph

/-- The handle that a condition is left by when no branch applies. -/
def defaultHandle : Text := "default"

end Flowchart
