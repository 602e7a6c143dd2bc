import Flowchart.Proofs.Lint
import Mathlib.Data.List.Count

/-!
Well-formed graphs, told without a scan and without a look-up. They are the graphs that have no
issue. A look-up sees only the first of several nodes with one id; that nothing slips through behind
it is due to the repeated id, which is an issue itself.
-/

namespace Flowchart

theorem count_repetitions (seen ids : List Text) (id : Text) :
    (repetitions seen ids).count id = ids.count id - if id ∈ seen then 0 else 1 := by
  induction ids generalizing seen with
  | nil => simp [repetitions]
  | cons first rest inductionHypothesis =>
      rw [repetitions]
      by_cases known : first ∈ seen <;> by_cases same : first = id
      · subst same
        simp [known, inductionHypothesis]
      · simp [known, same, inductionHypothesis]
      · subst same
        simp [known, inductionHypothesis]
      · have other : id ≠ first := fun equality => same equality.symm
        simp [known, same, other, inductionHypothesis]

theorem Issue.message_eq_duplicateNode_iff {issue : Issue} {id : Text} :
    issue.message = "Duplicate node id '" ++ id ++ "'" ↔ issue = .duplicateNode id := by
  constructor
  · intro told
    have start := issue.take_message
    rw [told] at start
    cases issue with
    | duplicateNode other =>
        have same : ("Duplicate node id '" : Text) ++ other ++ "'" =
            "Duplicate node id '" ++ id ++ "'" := told
        simpa using same
    | _ => simp [Text.codes_ofString] at start
  · rintro rfl
    rfl

namespace Graph

/-- What is asked of a graph: ids that tell its nodes apart, one input node that no edge leads to,
edges between its nodes that leave a condition by a handle of its own, and at most one edge out of
any other node. -/
structure IsWellFormed (graph : Graph) : Prop where
  distinct : (graph.nodes.map Node.id).Nodup
  input : graph.nodes.countP Node.isInput = 1
  source : ∀ edge ∈ graph.edges, edge.source ∈ graph.nodes.map Node.id
  target : ∀ edge ∈ graph.edges, edge.target ∈ graph.nodes.map Node.id
  entered : ∀ edge ∈ graph.edges, ∀ node ∈ graph.nodes, node.isInput = true →
    edge.target ≠ node.id
  handle : ∀ node ∈ graph.nodes, ∀ rows, node.payload = .condition rows →
    ∀ edge ∈ graph.edges, edge.source = node.id →
      edge.sourceHandle = some defaultHandle ∨ ∃ row ∈ rows, edge.sourceHandle = some row.id
  exit : ∀ node ∈ graph.nodes, node.kind ≠ .condition →
    graph.edges.countP (·.source = node.id) ≤ 1

variable {graph : Graph}

theorem inputIssues_eq_nil_iff :
    graph.inputIssues = [] ↔ graph.nodes.countP Node.isInput = 1 := by
  rw [List.countP_eq_length_filter]
  change _ ↔ graph.inputs.length = 1
  unfold inputIssues
  cases inputs : graph.inputs with
  | nil => simp
  | cons first others => cases others <;> simp

theorem node?_ne_none_iff {id : Text} :
    graph.node? id ≠ none ↔ id ∈ graph.nodes.map Node.id := by
  simp [node?_eq_none_iff]

theorem edgeIssues_eq_nil_iff {edge : Edge} :
    graph.edgeIssues edge = [] ↔
      edge.source ∈ graph.nodes.map Node.id ∧ edge.target ∈ graph.nodes.map Node.id ∧
        ∀ node, graph.node? edge.target = some node → node.isInput = false := by
  rw [← node?_ne_none_iff, ← node?_ne_none_iff]
  cases target : graph.node? edge.target <;> simp [edgeIssues, target]

theorem nodeIssues_eq_nil_iff {node : Node} :
    graph.nodeIssues node = [] ↔
      (∀ rows, node.payload = .condition rows → ∀ edge ∈ graph.edges, edge.source = node.id →
        isKnownHandle rows edge.sourceHandle = true) ∧
      (node.kind ≠ .condition → graph.edges.countP (·.source = node.id) ≤ 1) := by
  rw [List.countP_eq_length_filter]
  change _ ↔ _ ∧ (_ → (graph.outgoing node.id).length ≤ 1)
  unfold nodeIssues
  cases payload : node.payload with
  | input | action =>
      by_cases several : 1 < (graph.outgoing node.id).length
      · simp [Node.kind, payload, Payload.kind, several]
      · simp [Node.kind, payload, Payload.kind, several, Nat.le_of_not_lt several]
  | condition rows =>
      simp only [Node.kind, payload, Payload.kind, ne_eq, not_true_eq_false, false_implies, and_true,
        List.map_eq_nil_iff, List.filter_eq_nil_iff, Bool.not_eq_true', Bool.not_eq_false, outgoing,
        List.mem_filter, decide_eq_true_eq, and_imp, Payload.condition.injEq, forall_eq']

theorem lint_eq_nil_iff_parts :
    graph.lint = [] ↔
      graph.nodes ≠ [] ∧ (graph.nodes.map Node.id).Nodup ∧ graph.inputIssues = [] ∧
        (∀ edge ∈ graph.edges, graph.edgeIssues edge = []) ∧
        ∀ node ∈ graph.nodes, graph.nodeIssues node = [] := by
  simp [lint, repetitions_eq_nil_iff]

/-- A graph has no issue exactly if it is well-formed. -/
theorem lint_eq_nil_iff : graph.lint = [] ↔ graph.IsWellFormed := by
  rw [lint_eq_nil_iff_parts]
  simp only [inputIssues_eq_nil_iff, edgeIssues_eq_nil_iff, nodeIssues_eq_nil_iff]
  constructor
  · rintro ⟨-, distinct, input, edges, nodes⟩
    refine ⟨distinct, input, ?_, ?_, ?_, ?_, ?_⟩
    · intro edge member
      exact (edges edge member).1
    · intro edge member
      exact (edges edge member).2.1
    · -- The look-up of a target finds the input node itself, since no other node has its id.
      intro edge member node isNode isInput same
      obtain ⟨-, known, notInput⟩ := edges edge member
      obtain ⟨found, isFound⟩ := Option.ne_none_iff_exists'.mp (node?_ne_none_iff.mpr known)
      obtain rfl : found = node :=
        List.inj_on_of_nodup_map distinct (mem_of_node? isFound) isNode
          ((id_of_node? isFound).trans same)
      simp [notInput found isFound] at isInput
    · intro node isNode rows payload edge member leaves
      exact isKnownHandle_eq_true_iff.mp ((nodes node isNode).1 rows payload edge member leaves)
    · intro node isNode linear
      exact (nodes node isNode).2 linear
  · intro wellFormed
    refine ⟨?_, wellFormed.distinct, wellFormed.input, ?_, ?_⟩
    · rintro empty
      simpa [empty] using wellFormed.input
    · intro edge member
      refine ⟨wellFormed.source edge member, wellFormed.target edge member, ?_⟩
      intro node found
      rw [← Bool.not_eq_true]
      intro isInput
      exact wellFormed.entered edge member node (mem_of_node? found) isInput (id_of_node? found).symm
    · intro node isNode
      refine ⟨?_, wellFormed.exit node isNode⟩
      intro rows payload edge member leaves
      exact isKnownHandle_eq_true_iff.mpr
        (wellFormed.handle node isNode rows payload edge member leaves)

instance : Decidable graph.IsWellFormed :=
  decidable_of_iff (graph.lint = []) lint_eq_nil_iff

-- An edge of a condition has to leave it by a handle of its own.
example :
    let check : Node := ⟨"check", none, .empty, .condition [⟨"large", "Large", "true"⟩]⟩
    let graph (handle : Option Text) : Graph :=
      ⟨[⟨"start", none, .empty, .input []⟩, check, ⟨"send", none, .empty, .action none []⟩],
       [⟨none, "start", "check", none, none⟩, ⟨none, "check", "send", handle, none⟩]⟩
    (graph (some "large")).IsWellFormed ∧ ¬(graph none).IsWellFormed := by decide +kernel

/-- An id is reported once for each node after the first that has it. -/
theorem count_duplicateNode_lint (id : Text) :
    graph.lint.count (.duplicateNode id) = (graph.nodes.map Node.id).count id - 1 := by
  have repeated : ((repetitions [] (graph.nodes.map Node.id)).map Issue.duplicateNode).count
      (.duplicateNode id) = (graph.nodes.map Node.id).count id - 1 := by
    rw [List.count_map_of_injective _ _ fun _ _ => Issue.duplicateNode.inj, count_repetitions]
    simp
  have notEmpty : (if graph.nodes = [] then [Issue.noNodes] else []).count (.duplicateNode id) = 0 := by
    by_cases empty : graph.nodes = [] <;> simp [empty]
  have notInput : graph.inputIssues.count (.duplicateNode id) = 0 := by
    simp [List.count_eq_zero, mem_inputIssues_iff]
  have notEdge : (graph.edges.flatMap graph.edgeIssues).count (.duplicateNode id) = 0 := by
    simp [List.count_eq_zero, mem_edgeIssues_iff]
  have notNode : (graph.nodes.flatMap graph.nodeIssues).count (.duplicateNode id) = 0 := by
    simp [List.count_eq_zero, mem_nodeIssues_iff]
  simp only [lint, List.count_append, repeated, notEmpty, notInput, notEdge, notNode]
  omega

theorem count_message_lint (id : Text) :
    (graph.lint.map Issue.message).count (("Duplicate node id '" : Text) ++ id ++ "'") =
      graph.lint.count (.duplicateNode id) := by
  rw [List.count_eq_countP, List.countP_map, List.count_eq_countP]
  apply List.countP_congr
  intro issue _
  simp [Issue.message_eq_duplicateNode_iff]

/-- A graph is told nothing exactly if it is well-formed; and whatever it is told, each id is reported
as often as it is repeated. -/
theorem lint_tells_wellFormed (graph : Graph) :
    (graph.lint.map Issue.message = [] ↔ graph.IsWellFormed) ∧
      ∀ id, (graph.lint.map Issue.message).count (("Duplicate node id '" : Text) ++ id ++ "'") =
        (graph.nodes.map Node.id).count id - 1 := by
  refine ⟨?_, ?_⟩
  · rw [List.map_eq_nil_iff]
    exact lint_eq_nil_iff
  · intro id
    rw [count_message_lint, count_duplicateNode_lint]

end Graph

end Flowchart
