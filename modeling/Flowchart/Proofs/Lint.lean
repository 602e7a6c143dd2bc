import Flowchart.Graph.Lint
import Mathlib.Data.List.Nodup

/-!
Which issues a graph has, one kind after the other, and what their messages tell of them.
-/

namespace Flowchart

theorem repetitions_subset (seen ids : List Text) : repetitions seen ids ⊆ ids := by
  induction ids generalizing seen with
  | nil => exact List.Subset.refl _
  | cons id rest inductionHypothesis =>
      rw [repetitions]
      split
      · exact List.cons_subset_cons id (inductionHypothesis seen)
      · exact List.subset_cons_of_subset id (inductionHypothesis (id :: seen))

theorem repetitions_eq_nil_iff {seen ids : List Text} :
    repetitions seen ids = [] ↔ ids.Nodup ∧ ids.Disjoint seen := by
  induction ids generalizing seen with
  | nil => simp [repetitions]
  | cons id rest inductionHypothesis =>
      rw [repetitions, List.nodup_cons, List.disjoint_cons_left]
      by_cases known : id ∈ seen
      · simp [known]
      · rw [if_neg known, inductionHypothesis, List.disjoint_cons_right]
        constructor
        · rintro ⟨distinct, fresh, apart⟩
          exact ⟨⟨fresh, distinct⟩, known, apart⟩
        · rintro ⟨⟨fresh, distinct⟩, -, apart⟩
          exact ⟨distinct, fresh, apart⟩

namespace Issue

/-- Three letters tell the messages about input nodes from all others. -/
theorem take_message (issue : Issue) :
    issue.message.codes.take 3 = Text.codes
      (match issue with
      | .noNodes => "Gra"
      | .duplicateNode _ => "Dup"
      | .noInput => "No "
      | .multipleInputs _ => "Mul"
      | .unknownSource _ | .unknownTarget _ | .inputAsTarget _ => "Edg"
      | .unknownHandle .. => "Con"
      | .ambiguous .. => "Nod") := by
  cases issue <;> rfl

theorem eq_noInput_of_message {issue : Issue} (told : issue.message = "No input node found") :
    issue = .noInput := by
  have start := issue.take_message
  rw [told] at start
  cases issue <;> simp [Text.codes_ofString] at start ⊢

theorem exists_eq_multipleInputs_of_message {issue : Issue} {text : Text}
    (told : issue.message = "Multiple input nodes found: " ++ text) :
    ∃ ids, issue = .multipleInputs ids ∧ text = Text.intercalate ", " ids := by
  have start := issue.take_message
  rw [told] at start
  cases issue with
  | multipleInputs ids =>
      have same : "Multiple input nodes found: " ++ Text.intercalate ", " ids =
          "Multiple input nodes found: " ++ text := told
      exact ⟨ids, rfl, by simpa using same.symm⟩
  | _ => simp [Text.codes_ofString] at start

end Issue

namespace Graph

variable {graph : Graph} {issue : Issue}

theorem mem_inputIssues_iff :
    issue ∈ graph.inputIssues ↔
      (graph.inputs = [] ∧ issue = .noInput) ∨
      (2 ≤ graph.inputs.length ∧ issue = .multipleInputs (graph.inputs.map Node.id)) := by
  unfold inputIssues
  cases inputs : graph.inputs with
  | nil => simp
  | cons first others => cases others <;> simp

theorem mem_edgeIssues_iff {edge : Edge} :
    issue ∈ graph.edgeIssues edge ↔
      (graph.node? edge.source = none ∧ issue = .unknownSource edge) ∨
      (graph.node? edge.target = none ∧ issue = .unknownTarget edge) ∨
      (∃ node, graph.node? edge.target = some node ∧ node.isInput = true) ∧
        issue = .inputAsTarget edge := by
  simp only [edgeIssues, List.mem_append, List.mem_ite_nil_right, List.mem_singleton,
    Option.isNone_iff_eq_none, Option.any_eq_true, or_assoc]

theorem mem_nodeIssues_iff {node : Node} :
    issue ∈ graph.nodeIssues node ↔
      (∃ rows, node.payload = .condition rows ∧ ∃ edge ∈ graph.outgoing node.id,
        isKnownHandle rows edge.sourceHandle = false ∧
          issue = .unknownHandle node.id edge.sourceHandle) ∨
      (node.kind ≠ .condition ∧ 1 < (graph.outgoing node.id).length ∧
        issue = .ambiguous node.id (graph.outgoing node.id).length) := by
  unfold nodeIssues
  cases payload : node.payload with
  | input | action => simp [Node.kind, payload, Payload.kind]
  | condition rows =>
      simp [Node.kind, payload, Payload.kind, and_assoc, @eq_comm _ issue]

/-- Each issue is one of the node list, of the input nodes, of an edge or of a node. -/
theorem mem_lint_iff :
    issue ∈ graph.lint ↔
      (graph.nodes = [] ∧ issue = .noNodes) ∨
      (∃ id ∈ repetitions [] (graph.nodes.map Node.id), .duplicateNode id = issue) ∨
      issue ∈ graph.inputIssues ∨
      (∃ edge ∈ graph.edges, issue ∈ graph.edgeIssues edge) ∨
      ∃ node ∈ graph.nodes, issue ∈ graph.nodeIssues node := by
  by_cases empty : graph.nodes = [] <;> simp [lint, empty]

theorem noInput_mem_lint_iff : .noInput ∈ graph.lint ↔ graph.inputs = [] := by
  rw [mem_lint_iff]
  simp [mem_inputIssues_iff, mem_edgeIssues_iff, mem_nodeIssues_iff]

theorem multipleInputs_mem_lint_iff {ids : List Text} :
    .multipleInputs ids ∈ graph.lint ↔
      2 ≤ graph.inputs.length ∧ ids = graph.inputs.map Node.id := by
  rw [mem_lint_iff]
  simp [mem_inputIssues_iff, mem_edgeIssues_iff, mem_nodeIssues_iff]

theorem unknownTarget_mem_lint_iff {edge : Edge} :
    .unknownTarget edge ∈ graph.lint ↔ edge ∈ graph.edges ∧ graph.node? edge.target = none := by
  rw [mem_lint_iff]
  simp [mem_inputIssues_iff, mem_edgeIssues_iff, mem_nodeIssues_iff, and_comm]

theorem inputAsTarget_mem_lint_iff {edge : Edge} :
    .inputAsTarget edge ∈ graph.lint ↔
      edge ∈ graph.edges ∧
        ∃ node, graph.node? edge.target = some node ∧ node.isInput = true := by
  rw [mem_lint_iff]
  simp [mem_inputIssues_iff, mem_edgeIssues_iff, mem_nodeIssues_iff]

theorem ambiguous_mem_lint_iff {id : Text} {count : Nat} :
    .ambiguous id count ∈ graph.lint ↔
      (∃ node ∈ graph.nodes, node.id = id ∧ node.kind ≠ .condition) ∧
        1 < count ∧ count = (graph.outgoing id).length := by
  rw [mem_lint_iff]
  simp only [mem_inputIssues_iff, mem_edgeIssues_iff, mem_nodeIssues_iff, reduceCtorEq, and_false,
    exists_false, or_false, false_or, Issue.ambiguous.injEq]
  constructor
  · rintro ⟨node, member, linear, several, rfl, rfl⟩
    exact ⟨⟨node, member, rfl, linear⟩, several, rfl⟩
  · rintro ⟨⟨node, member, rfl, linear⟩, several, rfl⟩
    exact ⟨node, member, linear, several, rfl, rfl⟩

theorem distinct_of_lint_eq_nil (clean : graph.lint = []) : (graph.nodes.map Node.id).Nodup := by
  simp only [lint, List.append_eq_nil_iff, List.map_eq_nil_iff] at clean
  obtain ⟨⟨⟨⟨-, repeated⟩, -⟩, -⟩, -⟩ := clean
  exact (repetitions_eq_nil_iff.mp repeated).1

end Graph

end Flowchart
