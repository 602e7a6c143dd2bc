import Flowchart.Compile.Trace
import Flowchart.Document.Basic

/-!
The walk that turns the part of a graph behind a node into modules. A node other than a condition
is followed along its first edge; a condition ends its list, and each of its ways out is walked for
itself. An id that is met a second time on its own path ends the walk.
-/

namespace Flowchart

abbrev Graph.Member (graph : Graph) := { node : Node // node ∈ graph.nodes }

def Graph.unvisited (graph : Graph) (path : List Text) : List Node :=
  graph.nodes.filter fun node => node.id ∉ path

theorem Graph.length_unvisited_lt {graph : Graph} {path : List Text} {node : Node}
    (member : node ∈ graph.nodes) (unmet : node.id ∉ path) :
    (graph.unvisited (path ++ [node.id])).length < (graph.unvisited path).length := by
  simp only [unvisited, ← List.countP_eq_length_filter]
  obtain ⟨before, after, split⟩ := List.append_of_mem member
  have smaller (nodes : List Node) :
      nodes.countP (fun other => other.id ∉ path ++ [node.id]) ≤
        nodes.countP (fun other => other.id ∉ path) := by
    refine List.countP_mono_left fun other _ => ?_
    simp only [List.mem_append, List.mem_singleton, not_or, decide_eq_true_eq]
    exact And.left
  have left := smaller before
  have right := smaller after
  rw [split]
  simp [unmet] at left right ⊢
  omega

/-- The module of an action. A parameter bound twice keeps its first place and takes its last
expression. -/
def scriptModule (id : Text) (name : Option Text) (bindings : List Binding) : Module :=
  .script id none name
    (Keyed.ofList (bindings.map fun binding => (binding.parameter, binding.expression)))

namespace Graph

/-- The node that an edge leads to; an edge that leads nowhere is warned about. -/
def resolve (graph : Graph) (node : Node) (edge : Edge) : Trace (Option graph.Member) :=
  match found : graph.node? edge.target with
  | some target => pure (some ⟨target, Graph.mem_of_node? found⟩)
  | none => do
      Trace.warn (.unresolvedTarget node.id edge)
      return none

section

variable (graph : Graph) (enter : graph.Member → Trace (List Module)) (node : Node)

/-- The modules behind an edge of a node, or none if the edge leads nowhere. -/
def behind (edge : Edge) : Trace (Option (List Module)) := do
  match ← graph.resolve node edge with
  | some target => return some (← enter target)
  | none => return none

/-- The modules after a node other than a condition: those behind its first edge. -/
def successors : Trace (List Module) :=
  match graph.outgoing node.id with
  | [] => pure []
  | edge :: others => do
      Trace.warnIf (others ≠ []) (.ambiguousSuccessor node.id edge (others.length + 1))
      return (← graph.behind enter node edge).getD []

def defaults : Trace (List Module) :=
  match graph.edge? node.id (some defaultHandle) with
  | some edge => do return (← graph.behind enter node edge).getD []
  | none => pure []

/-- The branch of a row; without an edge of its own it is left out with a warning. -/
def branch? (row : BranchRow) : Trace (Option Branch) :=
  match graph.edge? node.id (some row.id) with
  | some edge => do
      return (← graph.behind enter node edge).map (Branch.mk row.label row.expression)
  | none => do
      Trace.warn (.missingBranchEdge node.id row)
      return none

/-- The modules of a node and of all that follows it, where `enter` tells those of the nodes that
its edges lead to. An action without a name is compiled all the same, with a warning. -/
def expand : Trace (List Module) :=
  match node.payload with
  | .input _ => graph.successors enter node
  | .action name bindings => do
      Trace.note (.compiled node.id)
      Trace.warnIf (name.getD "" = "") (.incompleteAction node.id)
      return scriptModule node.id name bindings :: (← graph.successors enter node)
  | .condition rows => do
      Trace.note (.compiled node.id)
      let default ← graph.defaults enter node
      let branches ← Trace.collect (graph.branch? enter node) rows
      return [.branchOne node.id (some "") default branches]

end

set_option linter.unusedVariables false in
/-- The modules of the chain that starts at a node, where `path` holds the ids above it. -/
def walk (graph : Graph) (path : List Text) (node : graph.Member) : Trace (List Module) :=
  if unmet : node.val.id ∉ path then
    graph.expand (fun target => walk graph (path ++ [node.val.id]) target) node
  else Trace.cycle (path.dropWhile (· ≠ node.val.id) ++ [node.val.id])
termination_by (graph.unvisited path).length
decreasing_by exact Graph.length_unvisited_lt node.property unmet

end Graph

end Flowchart
