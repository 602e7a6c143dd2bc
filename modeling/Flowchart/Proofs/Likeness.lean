import Flowchart.Graph.Lint
import Flowchart.Proofs.Walk

/-!
Graphs that look alike from a node. A walk asks a graph for the edges that a node is left by and
for the nodes at their ends, and for nothing else; so it goes the same way in two graphs that
answer alike at every node that it can reach, whatever else is in them.
-/

namespace Flowchart.Graph

/-- Whether another graph answers at a node as this one does. -/
structure AlikeAt (graph other : Graph) (node : Node) : Prop where
  outgoing : node.kind ≠ .condition → other.outgoing node.id = graph.outgoing node.id
  handles : ∀ rows, node.payload = .condition rows → ∀ handle, isKnownHandle rows handle = true →
    other.edge? node.id handle = graph.edge? node.id handle
  targets : ∀ edge ∈ graph.followed node, other.node? edge.target = graph.node? edge.target

variable {graph other : Graph} {node : Node}

theorem AlikeAt.refl (graph : Graph) (node : Node) : graph.AlikeAt graph node :=
  ⟨fun _ => rfl, fun _ _ _ _ => rfl, fun _ _ => rfl⟩

section

variable {enter : graph.Member → Trace (List Module)} {again : other.Member → Trace (List Module)}
  (alike : graph.AlikeAt other node)
  (same : ∀ target, graph.Follows node target → onNodes again target = onNodes enter target)
include alike same

theorem behind_congr {edge : Edge} (followed : edge ∈ graph.followed node) :
    other.behind again node edge = graph.behind enter node edge := by
  have ends := alike.targets edge followed
  cases found : graph.node? edge.target with
  | none =>
      rw [behind_of_missing enter node found, behind_of_missing again node (ends.trans found)]
  | some target =>
      rw [behind_of_found enter node found, behind_of_found again node (ends.trans found),
        same target ⟨edge, followed, found⟩]

theorem successors_congr (linear : node.kind ≠ .condition) :
    other.successors again node = graph.successors enter node := by
  unfold successors
  rw [alike.outgoing linear]
  cases edges : graph.outgoing node.id with
  | nil => rfl
  | cons edge others =>
      simp only [behind_congr alike same (first_mem_followed linear (by rw [edges]; rfl))]

theorem defaults_congr {rows : List BranchRow} (payload : node.payload = .condition rows) :
    other.defaults again node = graph.defaults enter node := by
  unfold defaults
  rw [alike.handles rows payload _ (isKnownHandle_default rows)]
  cases found : graph.edge? node.id (some defaultHandle) with
  | none => rfl
  | some edge => simp only [behind_congr alike same (default_mem_followed payload found)]

theorem branch?_congr {rows : List BranchRow} (payload : node.payload = .condition rows)
    {row : BranchRow} (declared : row ∈ rows) :
    other.branch? again node row = graph.branch? enter node row := by
  unfold branch?
  rw [alike.handles rows payload _ (isKnownHandle_row declared)]
  cases found : graph.edge? node.id (some row.id) with
  | none => rfl
  | some edge => simp only [behind_congr alike same (row_mem_followed payload declared found)]

/-- An expansion knows of a graph what the graph answers at its node, and of what is entered what
happens at the nodes that follow. -/
theorem expand_congr : other.expand again node = graph.expand enter node := by
  unfold expand
  cases payload : node.payload with
  | input | action =>
      have linear : node.kind ≠ .condition := by simp [Node.kind, payload, Payload.kind]
      simp only [successors_congr alike same linear]
  | condition rows =>
      have branches : Trace.collect (other.branch? again node) rows =
          Trace.collect (graph.branch? enter node) rows :=
        Trace.collect_congr fun row declared => branch?_congr alike same payload declared
      simp only [defaults_congr alike same payload, branches]

end

/-- Walks from a node are the same in graphs that look alike from it. -/
theorem walk_congr {path : List Text} (node : graph.Member)
    (alike : ∀ reached, graph.Reaches node reached → graph.AlikeAt other reached)
    (member : node.val ∈ other.nodes) :
    other.walk path ⟨node, member⟩ = graph.walk path node := by
  induction path, node using Graph.walk.induct with
  | case1 path node unmet inductionHypothesis =>
      have unmetThere : (⟨node.val, member⟩ : other.Member).val.id ∉ path := unmet
      rw [walk_of_unmet unmet, walk_of_unmet unmetThere]
      apply expand_congr (alike node .refl)
      intro target step
      obtain ⟨edge, isFollowed, found⟩ := step
      have there : target ∈ other.nodes :=
        mem_of_node? (((alike node .refl).targets edge isFollowed).trans found)
      have step : graph.Follows node target := ⟨edge, isFollowed, found⟩
      rw [onNodes_of_mem _ ⟨target, there⟩, onNodes_of_follows _ step]
      exact inductionHypothesis ⟨target, step.mem_nodes⟩
        (fun reached path => alike reached (.head step path)) there
  | case2 path node met =>
      have metThere : (⟨node.val, member⟩ : other.Member).val.id ∈ path := not_not.mp met
      rw [walk_of_met (not_not.mp met), walk_of_met metThere]

end Flowchart.Graph
