import Flowchart.Proofs.Anomaly
import Flowchart.Proofs.Pruning

/-!
Compiling a tidied graph. Tidying keeps every node and edge in its place and only takes ways away,
so what is reached, circled or wrong in the tidied graph is so in the graph itself, and what a node
unfolds to there is what it unfolds to here, pruned.
-/

namespace Flowchart

theorem Node.payload_normalize (node : Node) : node.normalize.payload = node.payload.normalize :=
  rfl

@[simp]
theorem Node.kind_normalize (node : Node) : node.normalize.kind = node.kind :=
  Payload.kind_normalize node.payload

namespace Graph

variable {graph : Graph} {node : Node}

@[simp]
theorem outgoing_normalize (id : Text) : graph.normalize.outgoing id = graph.outgoing id := rfl

@[simp]
theorem edge?_normalize (source : Text) (handle : Option Text) :
    graph.normalize.edge? source handle = graph.edge? source handle := rfl

theorem node?_normalize (id : Text) :
    graph.normalize.node? id = (graph.node? id).map Node.normalize := by
  simp only [node?, normalize, List.find?_map]
  rfl

theorem target?_normalize (edge? : Option Edge) :
    graph.normalize.target? edge? = (graph.target? edge?).map Node.normalize := by
  cases edge? with
  | none => rfl
  | some edge => exact node?_normalize edge.target

theorem inputs_normalize : graph.normalize.inputs = graph.inputs.map Node.normalize := by
  have sameKind : Node.isInput ∘ Node.normalize = Node.isInput := by
    funext node
    simp [Node.isInput]
  rw [inputs, inputs, normalize, List.filter_map, sameKind]

theorem mem_followed_of_normalize {edge : Edge}
    (isFollowed : edge ∈ graph.normalize.followed node.normalize) : edge ∈ graph.followed node := by
  cases payload : node.payload with
  | input | action =>
      simpa [followed, Node.payload_normalize, payload, Payload.normalize] using isFollowed
  | condition rows =>
      simp only [followed, Node.payload_normalize, payload, Payload.normalize, List.mem_append,
        List.mem_filterMap, List.mem_filter] at isFollowed ⊢
      rcases isFollowed with isDefault | ⟨row, ⟨declared, -⟩, ofRow⟩
      · exact .inl isDefault
      · exact .inr ⟨row, declared, ofRow⟩

/-- A step of the tidied graph is a step of the graph. -/
theorem Follows.of_normalize {target : Node}
    (step : graph.normalize.Follows node.normalize target) :
    ∃ origin, graph.Follows node origin ∧ origin.normalize = target := by
  obtain ⟨edge, isFollowed, found⟩ := step
  rw [node?_normalize, Option.map_eq_some_iff] at found
  obtain ⟨origin, found, tidied⟩ := found
  exact ⟨origin, ⟨edge, mem_followed_of_normalize isFollowed, found⟩, tidied⟩

theorem isChain_of_normalize {rest : List Node}
    (chain : (node.normalize :: rest).IsChain graph.normalize.Follows) :
    ∃ origins, (node :: origins).IsChain graph.Follows ∧ origins.map Node.normalize = rest := by
  induction rest generalizing node with
  | nil => exact ⟨[], List.isChain_singleton node, rfl⟩
  | cons next rest inductionHypothesis =>
      obtain ⟨step, later⟩ := List.isChain_cons_cons.mp chain
      obtain ⟨origin, originStep, rfl⟩ := step.of_normalize
      obtain ⟨origins, originChain, rfl⟩ := inductionHypothesis later
      exact ⟨origin :: origins, List.isChain_cons_cons.mpr ⟨originStep, originChain⟩, rfl⟩

/-- Tidying makes no circle. -/
theorem Circles.of_normalize (circles : graph.normalize.Circles node.normalize) :
    graph.Circles node := by
  obtain ⟨rest, chain, twice⟩ := circles
  obtain ⟨origins, originChain, rfl⟩ := isChain_of_normalize chain
  refine ⟨origins, originChain, ?_⟩
  simpa [Function.comp_def] using twice

theorem Reaches.of_normalize {reached : Node}
    (path : graph.normalize.Reaches node.normalize reached) :
    ∃ origin, graph.Reaches node origin ∧ origin.normalize = reached := by
  induction path with
  | refl => exact ⟨node, .refl, rfl⟩
  | tail _ step inductionHypothesis =>
      obtain ⟨origin, path, rfl⟩ := inductionHypothesis
      obtain ⟨next, step, tidied⟩ := step.of_normalize
      exact ⟨next, path.tail step, tidied⟩

theorem HasAnomaly.of_normalize {anomaly : Anomaly}
    (present : graph.normalize.HasAnomaly node.normalize anomaly) :
    graph.HasAnomaly node anomaly := by
  cases anomaly with
  | incompleteAction =>
      obtain ⟨name, bindings, tidied, unnamed⟩ := present
      cases payload : node.payload with
      | input | condition =>
          simp [Node.payload_normalize, payload, Payload.normalize] at tidied
      | action given others =>
          obtain ⟨rfl, -⟩ : given = name ∧ _ := by
            simpa [Node.payload_normalize, payload, Payload.normalize] using tidied
          exact ⟨given, others, payload, unnamed⟩
  | ambiguousSuccessor edge =>
      obtain ⟨linear, several⟩ := present
      exact ⟨by simpa using linear, several⟩
  | unresolvedTarget edge =>
      obtain ⟨isFollowed, missing⟩ := present
      rw [node?_normalize, Option.map_eq_none_iff] at missing
      exact ⟨mem_followed_of_normalize isFollowed, missing⟩
  | missingBranchEdge branch =>
      obtain ⟨kept, tidied, declared, missing⟩ := present
      cases payload : node.payload with
      | input | action =>
          simp [Node.payload_normalize, payload, Payload.normalize] at tidied
      | condition rows =>
          obtain rfl : rows.filter (fun row => !isBlankText row.label) = kept := by
            simpa [Node.payload_normalize, payload, Payload.normalize] using tidied
          exact ⟨rows, payload, List.map_subset _ (List.filter_subset_self rows) declared, missing⟩

section

variable {first second : Node → List Module}
  (pruned : ∀ target, graph.Follows node target →
    graph.normalize.Follows node.normalize target.normalize →
      second target.normalize = pruneModules (first target))
include pruned

/-- What stands behind an edge that the tidied graph follows is pruned. -/
theorem map_target?_normalize {edge? : Option Edge}
    (kept : ∀ edge ∈ edge?, edge ∈ graph.normalize.followed node.normalize) :
    (graph.normalize.target? edge?).map second =
      ((graph.target? edge?).map first).map pruneModules := by
  rw [target?_normalize]
  cases found : graph.target? edge? with
  | none => rfl
  | some target =>
      obtain ⟨edge, isEdge, leads⟩ := Option.bind_eq_some_iff.mp found
      have isFollowed := kept edge isEdge
      have step : graph.Follows node target := ⟨edge, mem_followed_of_normalize isFollowed, leads⟩
      have tidied : graph.normalize.Follows node.normalize target.normalize := by
        refine ⟨edge, isFollowed, ?_⟩
        rw [node?_normalize, leads, Option.map_some]
      exact congrArg some (pruned target step tidied)

theorem elim_target?_normalize {edge? : Option Edge}
    (kept : ∀ edge ∈ edge?, edge ∈ graph.normalize.followed node.normalize) :
    (graph.normalize.target? edge?).elim [] second =
      pruneModules ((graph.target? edge?).elim [] first) := by
  have byValue (target? : Option Node) (value : Node → List Module) :
      target?.elim [] value = (target?.map value).getD [] := by
    cases target? <;> rfl
  rw [byValue, byValue, map_target?_normalize pruned kept]
  cases graph.target? edge? <;> rfl

/-- A tidied node unfolds to the pruned modules of the node, if the nodes that follow do. -/
theorem unroll_normalize :
    graph.normalize.unroll second node.normalize = pruneModules (graph.unroll first node) := by
  cases payload : node.payload with
  | input properties =>
      have tidied : node.normalize.payload = Payload.normalize (.input properties) := by
        rw [Node.payload_normalize, payload]
      have linear : node.normalize.kind ≠ .condition := by
        simp [Node.kind, tidied, Payload.normalize, Payload.kind]
      have after := elim_target?_normalize pruned fun edge => first_mem_followed linear
      simpa [unroll, payload, tidied, Payload.normalize] using after
  | action name bindings =>
      have tidied : node.normalize.payload = Payload.normalize (.action name bindings) := by
        rw [Node.payload_normalize, payload]
      have linear : node.normalize.kind ≠ .condition := by
        simp [Node.kind, tidied, Payload.normalize, Payload.kind]
      have after := elim_target?_normalize pruned fun edge => first_mem_followed linear
      simp only [Node.id_normalize, outgoing_normalize] at after
      simp only [unroll, payload, tidied, Payload.normalize, Node.id_normalize, outgoing_normalize,
        after, transforms_filter, pruneModules, Module.prune]
  | condition rows =>
      have tidied : node.normalize.payload =
          .condition (rows.filter fun row => !isBlankText row.label) := by
        rw [Node.payload_normalize, payload, Payload.normalize]
      have default := elim_target?_normalize pruned fun edge => default_mem_followed tidied
      have branches := branches_filter
        (fun row => (graph.target? (graph.edge? node.id (some row.id))).map first)
        (fun row => (graph.normalize.target? (graph.edge? node.id (some row.id))).map second)
        fun row declared hasLabel => map_target?_normalize pruned fun edge =>
          row_mem_followed tidied (List.mem_filter.mpr ⟨declared, by simp [hasLabel]⟩)
      simp only [Option.map_map, Function.comp_def] at branches
      simp only [Node.id_normalize, edge?_normalize] at default
      simp only [unroll, payload, tidied, Node.id_normalize, edge?_normalize, default, branches,
        pruneModules, Module.prune]

end

theorem Unfolds.eq_pruneModules {modules tidied : List Module}
    (unfolded : graph.Unfolds graph.unroll node modules)
    (again : graph.normalize.Unfolds graph.normalize.unroll node.normalize tidied) :
    tidied = pruneModules modules := by
  induction unfolded generalizing tidied with
  | @node node below each inductionHypothesis =>
      cases again with
      | @node _ other otherEach =>
          -- Nothing is known of a target whose row is dropped, and nothing has to be.
          apply unroll_normalize
          intro target step tidiedStep
          exact inductionHypothesis target step (otherEach target.normalize tidiedStep)

theorem properties_normalize (node : Node) :
    node.normalize.properties =
      node.properties.filter fun property => !isBlankText property.name := by
  cases payload : node.payload <;>
    simp [Node.properties, Node.payload_normalize, payload, Payload.normalize]

theorem single_normalize {entry : Node} (single : graph.inputs = [entry]) :
    graph.normalize.inputs = [entry.normalize] := by
  rw [inputs_normalize, single, List.map_singleton]

theorem mem_nodes_normalize (member : node ∈ graph.nodes) :
    node.normalize ∈ graph.normalize.nodes :=
  List.mem_map_of_mem member

section

variable {entry : Node} (member : entry ∈ graph.nodes)
  (completed : (graph.walkFrom entry).completes = true)
include member completed

theorem completes_normalize : (graph.normalize.walkFrom entry.normalize).completes = true := by
  rw [completes_walkFrom_iff (mem_nodes_normalize member)]
  intro circles
  exact (completes_walkFrom_iff member).mp completed circles.of_normalize

theorem modules_normalize :
    (graph.normalize.walkFrom entry.normalize).modules =
      pruneModules (graph.walkFrom entry).modules := by
  have tidied := unfolds_modules (mem_nodes_normalize member) (completes_normalize member completed)
  exact (unfolds_modules member completed).eq_pruneModules tidied

theorem reports_normalize_subset :
    (graph.normalize.walkFrom entry.normalize).warnings.map Warning.report ⊆
      (graph.walkFrom entry).warnings.map Warning.report := by
  obtain ⟨found, unfolded, reported⟩ := exists_findings_of_completes member completed
  obtain ⟨left, unfoldedLeft, reportedLeft⟩ := exists_findings_of_completes
    (mem_nodes_normalize member) (completes_normalize member completed)
  rw [reported, reportedLeft]
  intro report isReported
  obtain ⟨⟨tidied, anomaly⟩, isLeft, rfl⟩ := List.mem_map.mp isReported
  rw [List.mem_eraseDups, mem_findings_iff unfoldedLeft] at isLeft
  obtain ⟨reached, present⟩ := isLeft
  obtain ⟨node, path, rfl⟩ := reached.of_normalize
  refine List.mem_map.mpr ⟨⟨node, anomaly⟩, ?_, rfl⟩
  rw [List.mem_eraseDups, mem_findings_iff unfolded]
  exact ⟨path, present.of_normalize⟩

end

variable (options : Options) (summary description : Text)

theorem result_normalize_of_ok {document : Document}
    (compiled : (graph.compile options summary description).result = .ok document) :
    (graph.normalize.compile options summary description).result = .ok document.prune := by
  have succeeded := Compilation.succeeded_iff_result.mpr ⟨document, compiled⟩
  obtain ⟨entry, single, completed⟩ := exists_entry_of_succeeded succeeded
  have member := mem_nodes_of_inputs single
  rw [result_of_input options summary description single completed] at compiled
  rw [result_of_input options summary description (single_normalize single)
    (completes_normalize member completed), modules_normalize member completed,
    properties_normalize, InputSchema.derive_filter, ← Except.ok.inj compiled]
  rfl

theorem warnings_normalize_subset
    (succeeded : (graph.compile options summary description).succeeded = true) :
    (graph.normalize.compile options summary description).warnings.map Warning.report ⊆
      (graph.compile options summary description).warnings.map Warning.report := by
  obtain ⟨entry, single, completed⟩ := exists_entry_of_succeeded succeeded
  rw [compile_of_input options summary description single,
    compile_of_input options summary description (single_normalize single)]
  exact reports_normalize_subset (mem_nodes_of_inputs single) completed

theorem result_normalize_of_error {error : CompileError}
    (failed : (graph.compile options summary description).result = .error error)
    (kind : error.kind = "no_entry_node" ∨ error.kind = "multiple_entry_nodes") :
    (graph.normalize.compile options summary description).result = .error error := by
  rcases graph.inputs_cases with noInput | ⟨entry, single⟩ | several
  · have noInputLeft : graph.normalize.inputs = [] := by
      rw [inputs_normalize, noInput, List.map_nil]
    rw [compile_of_no_input options summary description noInput] at failed
    rw [compile_of_no_input options summary description noInputLeft]
    exact failed
  · have failure := failure?_of_input options summary description single
    rw [Compilation.failure?_of_error failed] at failure
    split at failure
    · exact absurd failure (Option.some_ne_none _)
    · simp [Option.some.inj failure] at kind
  · have severalLeft : 2 ≤ graph.normalize.inputs.length := by
      rw [inputs_normalize, List.length_map]
      exact several
    rw [compile_of_inputs options summary description several] at failed
    rw [compile_of_inputs options summary description severalLeft, inputs_normalize, List.map_map]
    exact failed

/-- Tidying a graph before it is compiled prunes its document, adds no warning, and leaves the
failures for want of a single input node as they are. -/
theorem compile_normalize (graph : Graph) :
    let before := graph.compile options summary description
    let after := graph.normalize.compile options summary description
    (before.succeeded = true → after.succeeded = true) ∧
    (∀ document, before.result = .ok document →
      after.result = .ok document.prune ∧
      after.warnings.map Warning.report ⊆ before.warnings.map Warning.report) ∧
    (∀ error, before.result = .error error →
      error.kind = "no_entry_node" ∨ error.kind = "multiple_entry_nodes" →
        after.result = .error error) := by
  intro before after
  refine ⟨?_, ?_, ?_⟩
  · intro succeeded
    obtain ⟨document, compiled⟩ := Compilation.succeeded_iff_result.mp succeeded
    apply Compilation.succeeded_iff_result.mpr
    exact ⟨document.prune, result_normalize_of_ok options summary description compiled⟩
  · intro document compiled
    have succeeded := Compilation.succeeded_iff_result.mpr ⟨document, compiled⟩
    exact ⟨result_normalize_of_ok options summary description compiled,
      warnings_normalize_subset options summary description succeeded⟩
  · intro error failed kind
    exact result_normalize_of_error options summary description failed kind

/-- A condition that a row with a blank label leads back to. -/
def looped : Graph where
  nodes :=
    [⟨"start", none, .empty, .input []⟩,
     ⟨"check", none, .empty, .condition [⟨"again", " ", "true"⟩]⟩]
  edges := [edge "start" "check" none, edge "check" "check" (some "again")]

-- Not the other way round: tidying may take the only circle away.
example : (looped.compile .default "" "").succeeded = false := by decide +kernel
example : (looped.normalize.compile .default "" "").succeeded = true := by decide +kernel

end Graph

end Flowchart
