import Flowchart.Proofs.Anomaly
import Flowchart.Proofs.FirstCycle
import Flowchart.Proofs.Lint

/-!
How the lint of a graph agrees with its compilation. What a walk is warned of comes from nodes that
it reaches, also if a cycle ends it midway, so the lint, which looks at every node and every edge,
has it as an issue. A cycle through the input node has an edge to it, or to another node of its id,
and both are issues.
-/

namespace Flowchart

theorem Warning.distinct_subset (seen : List Warning.Key) (warnings : List Warning) :
    Warning.distinct seen warnings ⊆ warnings := by
  induction warnings generalizing seen with
  | nil => exact List.Subset.refl _
  | cons warning rest inductionHypothesis =>
      rw [distinct]
      split
      · exact List.subset_cons_of_subset _ (inductionHypothesis seen)
      · exact List.cons_subset_cons _ (inductionHypothesis _)

namespace Graph

variable {graph : Graph} {node : Node} {warning : Warning}

theorem compiled_of_mem_opening {id : Text} (noted : .compiled id ∈ graph.opening node) :
    node.id = id := by
  cases input : node.isInput with
  | true => simp [opening, input] at noted
  | false => simpa [opening, input, eq_comm] using noted

theorem warned_mem_opening_iff :
    .warned warning ∈ graph.opening node ↔ warning ∈ graph.ownWarnings node := by
  cases input : node.isInput <;> simp [opening, input]

/-- What a walk notes, it notes at a node that it reaches, even if a cycle ends it. -/
theorem exists_reached_of_mem_log {path : List Text} {node : graph.Member} {note : Note}
    (noted : note ∈ (graph.walk path node).log) :
    ∃ reached, graph.Reaches node reached ∧
      (note ∈ graph.opening reached ∨
        ∃ warning, .lost warning ∈ graph.ways reached ∧ note = .warned warning) := by
  induction path, node using Graph.walk.induct with
  | case1 path node unmet inductionHypothesis =>
      rw [walk_of_unmet unmet] at noted
      rcases mem_log_expand noted with own | isLost | ⟨target, step, further⟩
      · exact ⟨node, .refl, .inl own⟩
      · exact ⟨node, .refl, .inr isLost⟩
      · rw [onNodes_of_follows _ step] at further
        obtain ⟨reached, path, found⟩ := inductionHypothesis ⟨target, step.mem_nodes⟩ further
        exact ⟨reached, .head step path, found⟩
  | case2 path node met =>
      rw [walk_of_met (not_not.mp met)] at noted
      exact absurd noted List.not_mem_nil

theorem exists_warns_of_mem_log {path : List Text} {node : graph.Member}
    (noted : .warned warning ∈ (graph.walk path node).log) :
    ∃ reached, graph.Reaches node reached ∧ graph.Warns reached warning := by
  obtain ⟨reached, path, own | ⟨other, isLost, same⟩⟩ := exists_reached_of_mem_log noted
  · exact ⟨reached, path, .inl (warned_mem_opening_iff.mp own)⟩
  · obtain rfl : warning = other := Note.warned.inj same
    exact ⟨reached, path, .inr isLost⟩

/-- The ids that a walk compiles are ids of nodes. -/
theorem mem_ids_of_mem_compiled {path : List Text} {node : graph.Member} {id : Text}
    (compiled : id ∈ (graph.walk path node).compiled) : id ∈ graph.nodes.map Node.id := by
  rw [Trace.compiled_eq] at compiled
  obtain ⟨note, noted, isCompiled⟩ := List.mem_filterMap.mp compiled
  cases note with
  | compiled other =>
      obtain rfl : other = id := Option.some.inj isCompiled
      obtain ⟨reached, path, own | ⟨warning, -, same⟩⟩ := exists_reached_of_mem_log noted
      · exact List.mem_map.mpr
          ⟨reached, path.mem_nodes node.property, compiled_of_mem_opening own⟩
      · cases same
  | warned warning => cases isCompiled

/-- What a compilation warns of, some node of the graph warns of, whatever comes of it. -/
theorem exists_warns_of_mem_warnings {options : Options} {summary description : Text}
    (reported : warning ∈ (graph.compile options summary description).warnings) :
    ∃ node ∈ graph.nodes, graph.Warns node warning := by
  rcases graph.inputs_cases with noInput | ⟨entry, single⟩ | several
  · rw [compile_of_no_input options summary description noInput] at reported
    exact absurd reported List.not_mem_nil
  · have member := mem_nodes_of_inputs single
    rw [compile_of_input options summary description single, walkFrom_of_mem member,
      Trace.warnings_eq] at reported
    obtain ⟨note, noted, isWarning⟩ :=
      List.mem_filterMap.mp (Warning.distinct_subset [] _ reported)
    cases note with
    | compiled => exact absurd isWarning (Option.some_ne_none warning).symm
    | warned other =>
        obtain rfl : other = warning := Option.some.inj isWarning
        obtain ⟨reached, path, warned⟩ := exists_warns_of_mem_log noted
        exact ⟨reached, path.mem_nodes member, warned⟩
  · rw [compile_of_inputs options summary description several] at reported
    exact absurd reported List.not_mem_nil

theorem Warns.unknownTarget_mem_lint {id : Text} {edge : Edge}
    (warned : graph.Warns node (.unresolvedTarget id edge)) :
    .unknownTarget edge ∈ graph.lint := by
  obtain ⟨isFollowed, missing⟩ := warned.hasAnomaly
  exact unknownTarget_mem_lint_iff.mpr ⟨mem_edges_of_followed isFollowed, missing⟩

theorem Warns.ambiguous_mem_lint {id : Text} {edge : Edge} {count : Nat}
    (member : node ∈ graph.nodes)
    (warned : graph.Warns node (.ambiguousSuccessor id edge count)) :
    .ambiguous id count ∈ graph.lint := by
  rcases warned with isOwn | isLost
  · rcases mem_ownWarnings_iff.mp isOwn with ⟨_, _, _, _, same⟩ | ⟨linear, ambiguous⟩
    · cases same
    · obtain ⟨_, second, others, edges, same⟩ := mem_ambiguities_iff.mp ambiguous
      obtain ⟨rfl, rfl, rfl⟩ := Warning.ambiguousSuccessor.inj same
      rw [ambiguous_mem_lint_iff, edges]
      exact ⟨⟨node, member, rfl, linear⟩, by simp, rfl⟩
  · rcases lost_mem_ways_iff.mp isLost with ⟨_, _, _, same⟩ | ⟨_, _, _, _, _, same⟩ <;> cases same

/-- A step to a node with the id of an input node is an issue: its edge has an input node for its
target, or the id stands for two nodes. -/
theorem lint_ne_nil_of_step {source target entry : Node} (step : graph.Follows source target)
    (member : entry ∈ graph.nodes) (input : entry.isInput = true) (same : target.id = entry.id) :
    graph.lint ≠ [] := by
  intro clean
  have distinct := distinct_of_lint_eq_nil clean
  obtain rfl : target = entry :=
    List.inj_on_of_nodup_map distinct step.mem_nodes member same
  obtain ⟨edge, isFollowed, found⟩ := step
  have issue : .inputAsTarget edge ∈ graph.lint :=
    inputAsTarget_mem_lint_iff.mpr ⟨mem_edges_of_followed isFollowed, target, found, input⟩
  exact absurd clean (List.ne_nil_of_mem issue)

section

variable (options : Options) (summary description : Text)

theorem noInput_message_mem_iff :
    ("No input node found" : Text) ∈ graph.lint.map Issue.message ↔ graph.inputs = [] := by
  rw [← noInput_mem_lint_iff, List.mem_map]
  constructor
  · rintro ⟨issue, present, told⟩
    exact Issue.eq_noInput_of_message told ▸ present
  · intro present
    exact ⟨.noInput, present, rfl⟩

theorem multipleInputs_message_mem_iff {text : Text} :
    ("Multiple input nodes found: " : Text) ++ text ∈ graph.lint.map Issue.message ↔
      2 ≤ graph.inputs.length ∧ text = Text.intercalate ", " (graph.inputs.map Node.id) := by
  rw [List.mem_map]
  constructor
  · rintro ⟨issue, present, told⟩
    obtain ⟨ids, rfl, rfl⟩ := Issue.exists_eq_multipleInputs_of_message told
    obtain ⟨several, rfl⟩ := multipleInputs_mem_lint_iff.mp present
    exact ⟨several, rfl⟩
  · rintro ⟨several, rfl⟩
    exact ⟨.multipleInputs (graph.inputs.map Node.id),
      multipleInputs_mem_lint_iff.mpr ⟨several, rfl⟩, rfl⟩

theorem multipleEntries_error_iff {text : Text} :
    (∃ error, (graph.compile options summary description).error? = some error ∧
        error.kind = "multiple_entry_nodes" ∧ text = Text.intercalate ", " error.nodes) ↔
      2 ≤ graph.inputs.length ∧ text = Text.intercalate ", " (graph.inputs.map Node.id) := by
  constructor
  · rintro ⟨error, failed, kind, rfl⟩
    have failure : (graph.compile options summary description).failure? =
        some ("multiple_entry_nodes" : Text) := by
      rw [Compilation.failure?, failed, Option.map_some, kind]
    refine ⟨(failure?_eq_multipleEntries_iff options summary description).mp failure, ?_⟩
    rw [nodes_of_multipleEntries options summary description failed kind]
  · rintro ⟨several, rfl⟩
    refine ⟨.multipleEntries (graph.inputs.map Node.id), ?_, rfl, rfl⟩
    rw [compile_of_inputs options summary description several]
    rfl

theorem lint_ne_nil_of_cycle {error : CompileError}
    (failed : (graph.compile options summary description).error? = some error)
    (kind : error.kind = "cycle_detected")
    (through : (graph.compile options summary description).entry ∈ error.nodes) :
    graph.lint ≠ [] := by
  obtain ⟨entry, _, single, _⟩ := walkFrom_of_error failed kind
  rw [compile_of_input options summary description single] at through
  obtain ⟨source, target, step, same⟩ := exists_step_of_mem_cycle failed kind through
  exact lint_ne_nil_of_step step (mem_nodes_of_inputs single) (isInput_of_inputs single) same

/-- A graph without an issue has a single input node, so a cycle is all that it can fail for. -/
theorem kind_of_clean {error : CompileError} (clean : graph.lint = [])
    (failed : (graph.compile options summary description).error? = some error) :
    error.kind = "cycle_detected" := by
  have failure : (graph.compile options summary description).failure? = some error.kind := by
    rw [Compilation.failure?, failed, Option.map_some]
  cases error with
  | noEntry =>
      have noInput := (failure?_eq_noEntry_iff options summary description).mp failure
      have issue : .noInput ∈ graph.lint := noInput_mem_lint_iff.mpr noInput
      exact absurd clean (List.ne_nil_of_mem issue)
  | multipleEntries ids =>
      have several := (failure?_eq_multipleEntries_iff options summary description).mp failure
      have issue := multipleInputs_mem_lint_iff.mpr ⟨several, rfl⟩
      exact absurd clean (List.ne_nil_of_mem issue)
  | cycle ids => rfl

theorem succeeded_or_cycle_of_clean (clean : graph.lint = []) :
    (graph.compile options summary description).succeeded = true ∨
      ∃ error, (graph.compile options summary description).error? = some error ∧
        error.kind = "cycle_detected" ∧
        (graph.compile options summary description).entry ∉ error.nodes := by
  cases failed : (graph.compile options summary description).error? with
  | none => exact .inl (Compilation.succeeded_iff_error?.mpr failed)
  | some error =>
      have kind := kind_of_clean options summary description clean failed
      refine .inr ⟨error, rfl, kind, ?_⟩
      intro through
      exact lint_ne_nil_of_cycle options summary description failed kind through clean

theorem kind_of_warning_of_clean (clean : graph.lint = [])
    (reported : warning ∈ (graph.compile options summary description).warnings) :
    warning.kind = .incompleteAction ∨ warning.kind = .missingBranchEdge := by
  obtain ⟨node, member, warned⟩ := exists_warns_of_mem_warnings reported
  cases warning with
  | unresolvedTarget id edge =>
      have issue := warned.unknownTarget_mem_lint
      exact absurd clean (List.ne_nil_of_mem issue)
  | missingBranchEdge id row => exact .inr rfl
  | ambiguousSuccessor id edge count =>
      have issue := warned.ambiguous_mem_lint member
      exact absurd clean (List.ne_nil_of_mem issue)
  | incompleteAction id => exact .inl rfl

/-- What a compilation fails for or warns of is an issue of the graph: the lack or the number of its
input nodes, each edge that leads nowhere, each node that is left by several edges, and a cycle by
way of the input node. A graph without an issue can fail for another cycle only. -/
theorem compile_agrees_with_lint (graph : Graph) :
    let compilation := graph.compile options summary description
    let messages := graph.lint.map Issue.message
    (compilation.failure? = some "no_entry_node" ↔
      ("No input node found" : Text) ∈ messages) ∧
    (∀ text, (∃ error, compilation.error? = some error ∧ error.kind = "multiple_entry_nodes" ∧
        text = Text.intercalate ", " error.nodes) ↔
      ("Multiple input nodes found: " : Text) ++ text ∈ messages) ∧
    (∀ id edge, .unresolvedTarget id edge ∈ compilation.warnings →
      ("Edge " : Text) ++ edge.label ++ ": target '" ++ edge.target ++ "' not found" ∈ messages) ∧
    (∀ id edge count, .ambiguousSuccessor id edge count ∈ compilation.warnings →
      count = (graph.outgoing id).length ∧
      ("Node '" : Text) ++ id ++ "' has " ++ numeral count ++
        " outgoing edges; only the first is followed" ∈ messages) ∧
    (∀ error, compilation.error? = some error → error.kind = "cycle_detected" →
      compilation.entry ∈ error.nodes → messages ≠ []) ∧
    (messages = [] →
      (compilation.succeeded = true ∨
        ∃ error, compilation.error? = some error ∧ error.kind = "cycle_detected" ∧
          compilation.entry ∉ error.nodes) ∧
      ∀ warning ∈ compilation.warnings,
        warning.kind = .incompleteAction ∨ warning.kind = .missingBranchEdge) := by
  intro compilation messages
  refine ⟨?_, ?_, ?_, ?_, ?_, ?_⟩
  · rw [failure?_eq_noEntry_iff, noInput_message_mem_iff]
  · intro text
    rw [multipleEntries_error_iff, multipleInputs_message_mem_iff]
  · intro id edge reported
    obtain ⟨node, -, warned⟩ := exists_warns_of_mem_warnings reported
    exact List.mem_map.mpr ⟨.unknownTarget edge, warned.unknownTarget_mem_lint, rfl⟩
  · intro id edge count reported
    obtain ⟨node, member, warned⟩ := exists_warns_of_mem_warnings reported
    have issue := warned.ambiguous_mem_lint member
    exact ⟨(ambiguous_mem_lint_iff.mp issue).2.2,
      List.mem_map.mpr ⟨.ambiguous id count, issue, rfl⟩⟩
  · intro error failed kind through
    rw [ne_eq, List.map_eq_nil_iff]
    exact lint_ne_nil_of_cycle options summary description failed kind through
  · intro quiet
    have clean : graph.lint = [] := List.map_eq_nil_iff.mp quiet
    refine ⟨succeeded_or_cycle_of_clean options summary description clean, ?_⟩
    intro warning reported
    exact kind_of_warning_of_clean options summary description clean reported

end

/-- Two actions that follow one on the other for ever. -/
def circling : Graph where
  nodes :=
    [⟨"start", none, .empty, .input []⟩, ⟨"send", none, .empty, .action (some "mail/send") []⟩,
     ⟨"wait", none, .empty, .action (some "time/wait") []⟩]
  edges := [edge "start" "send" none, edge "send" "wait" none, edge "wait" "send" none]

-- A cycle that the input node is not part of is no issue.
example : circling.lint = [] ∧
    (circling.compile .default "" "").error? = some (.cycle ["send", "wait", "send"]) := by
  decide +kernel

end Graph

end Flowchart
