import Flowchart.Graph.Basic
import Flowchart.Text.Numeral

/-!
Structural problems of a graph, found by looking at each node and each edge once.
-/

namespace Flowchart

/-- Something about a graph that its author should mend. -/
inductive Issue where
  | noNodes
  | duplicateNode (id : Text)
  | noInput
  | multipleInputs (ids : List Text)
  | unknownSource (edge : Edge)
  | unknownTarget (edge : Edge)
  | inputAsTarget (edge : Edge)
  | unknownHandle (node : Text) (handle : Option Text)
  | ambiguous (node : Text) (outgoing : Nat)
  deriving DecidableEq, Repr

/-- What an edge is called: its id, or its ends if it has none. -/
def Edge.label (edge : Edge) : Text :=
  match edge.id with
  | some id => if id = "" then edge.source ++ "->" ++ edge.target else id
  | none => edge.source ++ "->" ++ edge.target

def Issue.message : Issue → Text
  | noNodes => "Graph has no nodes"
  | duplicateNode id => "Duplicate node id '" ++ id ++ "'"
  | noInput => "No input node found"
  | multipleInputs ids => "Multiple input nodes found: " ++ Text.intercalate ", " ids
  | unknownSource edge => "Edge " ++ edge.label ++ ": source '" ++ edge.source ++ "' not found"
  | unknownTarget edge => "Edge " ++ edge.label ++ ": target '" ++ edge.target ++ "' not found"
  | inputAsTarget edge =>
      "Edge " ++ edge.label ++ ": input node '" ++ edge.target ++ "' cannot be a target"
  | unknownHandle node handle =>
      "Condition node '" ++ node ++ "' has an edge from unknown handle '" ++
        handle.getD "None" ++ "'"
  | ambiguous node outgoing =>
      "Node '" ++ node ++ "' has " ++ numeral outgoing ++
        " outgoing edges; only the first is followed"

/-- The members of a list that stand there already, once for each repetition; `seen` holds what
came before. -/
def repetitions (seen : List Text) : List Text → List Text
  | [] => []
  | id :: rest =>
      if id ∈ seen then id :: repetitions seen rest else repetitions (id :: seen) rest

namespace Graph

def inputIssues (graph : Graph) : List Issue :=
  match graph.inputs with
  | [] => [.noInput]
  | [_] => []
  | several => [.multipleInputs (several.map Node.id)]

def edgeIssues (graph : Graph) (edge : Edge) : List Issue :=
  (if (graph.node? edge.source).isNone then [.unknownSource edge] else []) ++
    (if (graph.node? edge.target).isNone then [.unknownTarget edge] else []) ++
    (if (graph.node? edge.target).any Node.isInput then [.inputAsTarget edge] else [])

/-- Whether an edge can leave a condition with these rows by a handle. -/
def isKnownHandle (rows : List BranchRow) (handle : Option Text) : Bool :=
  handle = some defaultHandle || rows.any fun row => handle = some row.id

@[simp]
theorem isKnownHandle_default (rows : List BranchRow) :
    isKnownHandle rows (some defaultHandle) = true := by
  simp [isKnownHandle]

theorem isKnownHandle_row {rows : List BranchRow} {row : BranchRow} (declared : row ∈ rows) :
    isKnownHandle rows (some row.id) = true := by
  rw [isKnownHandle, Bool.or_eq_true, List.any_eq_true]
  exact .inr ⟨row, declared, decide_eq_true rfl⟩

theorem isKnownHandle_eq_true_iff {rows : List BranchRow} {handle : Option Text} :
    isKnownHandle rows handle = true ↔
      handle = some defaultHandle ∨ ∃ row ∈ rows, handle = some row.id := by
  simp [isKnownHandle]

def nodeIssues (graph : Graph) (node : Node) : List Issue :=
  let outgoing := graph.outgoing node.id
  match node.payload with
  | .condition rows =>
      (outgoing.filter fun edge => !isKnownHandle rows edge.sourceHandle).map fun edge =>
        .unknownHandle node.id edge.sourceHandle
  | _ => if 1 < outgoing.length then [.ambiguous node.id outgoing.length] else []

/-- All issues of a graph: those of the node list, of each edge, of each node. -/
def lint (graph : Graph) : List Issue :=
  (if graph.nodes = [] then [.noNodes] else []) ++
    (repetitions [] (graph.nodes.map Node.id)).map .duplicateNode ++
    graph.inputIssues ++
    graph.edges.flatMap graph.edgeIssues ++
    graph.nodes.flatMap graph.nodeIssues

end Graph

end Flowchart
