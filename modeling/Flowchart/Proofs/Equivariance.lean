import Flowchart.Proofs.Relabelling

/-!
Compiling a graph under other ids and with other expressions. A walk asks of ids only whether they
are the same, and asks nothing of expressions; so it takes the same steps in the changed graph, and
what it notes, makes and ends with is what it was before, changed in the same way.
-/

namespace Flowchart.Graph

variable {graph : Graph} (new : Relabelling)

theorem inputs_relabel : (graph.relabel new).inputs = graph.inputs.map (Node.relabel new) := by
  rw [inputs, inputs, relabel, List.filter_map]
  congr 2
  funext node
  apply Node.isInput_relabel

theorem node?_relabel (id : Text) :
    (graph.relabel new).node? (new.id id) = (graph.node? id).map (Node.relabel new) := by
  rw [node?, node?, relabel, List.find?_map]
  congr 2
  funext node
  apply decide_eq_decide.mpr
  exact new.injective.eq_iff

theorem outgoing_relabel (id : Text) :
    (graph.relabel new).outgoing (new.id id) = (graph.outgoing id).map (Edge.relabel new) := by
  rw [outgoing, outgoing, relabel, List.filter_map]
  congr 2
  funext edge
  apply decide_eq_decide.mpr
  exact new.injective.eq_iff

theorem edge?_relabel (id : Text) (handle : Option Text) :
    (graph.relabel new).edge? (new.id id) handle =
      (graph.edge? id handle).map (Edge.relabel new) := by
  rw [edge?, edge?, relabel, List.find?_map]
  congr 2
  funext edge
  apply decide_eq_decide.mpr
  exact and_congr_left' new.injective.eq_iff

theorem getD_relabel (modules? : Option (List Module)) :
    (modules?.map (List.map (Module.relabel new))).getD [] =
      (modules?.getD []).map (Module.relabel new) := by
  cases modules? <;> rfl

section

variable {new} {enter : graph.Member → Trace (List Module)}
  {again : (graph.relabel new).Member → Trace (List Module)}
  (agrees : ∀ node ∈ graph.nodes, onNodes again (node.relabel new) =
    List.map (Module.relabel new) <$> (onNodes enter node).relabel new)
  (node : Node)
include agrees

theorem behind_relabel (edge : Edge) :
    (graph.relabel new).behind again (node.relabel new) (edge.relabel new) =
      Option.map (List.map (Module.relabel new)) <$> (graph.behind enter node edge).relabel new := by
  cases found : graph.node? edge.target with
  | none =>
      have missing : (graph.relabel new).node? (edge.relabel new).target = none := by
        rw [Edge.target_relabel, node?_relabel, found, Option.map_none]
      rw [behind_of_missing enter node found, behind_of_missing again (node.relabel new) missing]
      rfl
  | some target =>
      have there : (graph.relabel new).node? (edge.relabel new).target =
          some (target.relabel new) := by
        rw [Edge.target_relabel, node?_relabel, found, Option.map_some]
      rw [behind_of_found enter node found, behind_of_found again (node.relabel new) there,
        agrees target (mem_of_node? found)]
      simp

theorem successors_relabel :
    (graph.relabel new).successors again (node.relabel new) =
      List.map (Module.relabel new) <$> (graph.successors enter node).relabel new := by
  unfold successors
  rw [Node.id_relabel, outgoing_relabel]
  cases edges : graph.outgoing node.id with
  | nil => rfl
  | cons edge others =>
      simp only [List.map_cons, behind_relabel agrees]
      simp [getD_relabel, Warning.relabel]

theorem defaults_relabel :
    (graph.relabel new).defaults again (node.relabel new) =
      List.map (Module.relabel new) <$> (graph.defaults enter node).relabel new := by
  unfold defaults
  rw [Node.id_relabel, edge?_relabel]
  cases found : graph.edge? node.id (some defaultHandle) with
  | none => rfl
  | some edge =>
      simp only [Option.map_some, behind_relabel agrees]
      simp [getD_relabel]

theorem branch?_relabel (row : BranchRow) :
    (graph.relabel new).branch? again (node.relabel new) (row.relabel new) =
      Option.map (Branch.relabel new) <$> (graph.branch? enter node row).relabel new := by
  unfold branch?
  rw [Node.id_relabel, BranchRow.relabel, edge?_relabel]
  cases found : graph.edge? node.id (some row.id) with
  | none => rfl
  | some edge =>
      simp only [Option.map_some, behind_relabel agrees]
      simp [Function.comp_def]

theorem expand_relabel :
    (graph.relabel new).expand again (node.relabel new) =
      List.map (Module.relabel new) <$> (graph.expand enter node).relabel new := by
  unfold expand
  cases payload : node.payload with
  | input properties =>
      simp only [Node.payload_relabel, payload, Payload.relabel]
      apply successors_relabel agrees
  | action name bindings =>
      simp only [Node.payload_relabel, payload, Payload.relabel, successors_relabel agrees]
      simp [Note.relabel, Warning.relabel]
  | condition rows =>
      -- Each changed row makes the changed branch of the row that it was.
      have branches : Trace.collect ((graph.relabel new).branch? again (node.relabel new))
            (rows.map (BranchRow.relabel new)) =
          List.map (Branch.relabel new) <$>
            (Trace.collect (graph.branch? enter node) rows).relabel new :=
        Trace.relabel_collect new fun row _ => branch?_relabel agrees node row
      simp only [Node.payload_relabel, payload, Payload.relabel, defaults_relabel agrees, branches]
      simp [Note.relabel]

end

theorem dropWhile_relabel (path : List Text) (id : Text) :
    (path.map new.id).dropWhile (· ≠ new.id id) = (path.dropWhile (· ≠ id)).map new.id := by
  rw [List.dropWhile_map]
  simp [Function.comp_def, new.injective.eq_iff]

/-- A walk under the new ids meets a node again where the old one does. -/
theorem walk_relabel (path : List Text) (node : graph.Member)
    (there : (graph.relabel new).Member) (same : there.val = node.val.relabel new) :
    (graph.relabel new).walk (path.map new.id) there =
      List.map (Module.relabel new) <$> (graph.walk path node).relabel new := by
  have named : there.val.id = new.id node.val.id := congrArg Node.id same
  -- The path above a node is the old one under the new ids, all the way down.
  induction path, node using Graph.walk.induct generalizing there with
  | case1 path node unmet inductionHypothesis =>
      have unmetThere : there.val.id ∉ path.map new.id := by
        rw [named, List.mem_map_of_injective new.injective]
        exact unmet
      have longer : (path ++ [node.val.id]).map new.id = path.map new.id ++ [new.id node.val.id] :=
        List.map_append
      rw [walk_of_unmet unmet, walk_of_unmet unmetThere, named, same, ← longer]
      apply expand_relabel
      intro target isTarget
      have isThere : target.relabel new ∈ (graph.relabel new).nodes := List.mem_map_of_mem isTarget
      rw [onNodes_of_mem _ ⟨target, isTarget⟩, onNodes_of_mem _ ⟨target.relabel new, isThere⟩]
      exact inductionHypothesis ⟨target, isTarget⟩ ⟨target.relabel new, isThere⟩ rfl rfl
  | case2 path node met =>
      have isMet := not_not.mp met
      have isMetThere : there.val.id ∈ path.map new.id := by
        rw [named, List.mem_map_of_injective new.injective]
        exact isMet
      rw [walk_of_met isMet, walk_of_met isMetThere, named, dropWhile_relabel, Trace.relabel_cycle,
        List.map_append]
      rfl

theorem walkFrom_relabel {entry : Node} (member : entry ∈ graph.nodes) :
    (graph.relabel new).walkFrom (entry.relabel new) =
      List.map (Module.relabel new) <$> (graph.walkFrom entry).relabel new := by
  have there : entry.relabel new ∈ (graph.relabel new).nodes := List.mem_map_of_mem member
  rw [walkFrom_of_mem member, walkFrom_of_mem there]
  exact walk_relabel new [] ⟨entry, member⟩ ⟨entry.relabel new, there⟩ rfl

variable (options : Options) (summary description : Text)

theorem hasEntry_of_input {entry : Node} (single : graph.inputs = [entry]) :
    (graph.compile options summary description).hasEntry = true := by
  rw [compile_of_input options summary description single]
  cases outcome : (graph.walkFrom entry).outcome <;> rfl

theorem relabel_compile_of_input {entry : Node} (single : graph.inputs = [entry]) :
    (graph.relabel new).compile options summary description =
      (graph.compile options summary description).relabel new := by
  have there : (graph.relabel new).inputs = [entry.relabel new] := by
    rw [inputs_relabel, single, List.map_singleton]
  have walk := walkFrom_relabel new (mem_nodes_of_inputs single)
  rw [Compilation.relabel, hasEntry_of_input options summary description single, if_pos rfl,
    compile_of_input options summary description single,
    compile_of_input options summary description there, walk]
  simp only [Compilation.mk.injEq]
  refine ⟨?_, ?_, ?_, ?_, ?_, ?_⟩
  · rw [Trace.outcome_map_relabel]
    cases (graph.walkFrom entry).outcome with
    | error ids => rfl
    | ok modules =>
        simp only [Except.mapError, Except.map, Document.relabel, Node.properties_relabel]
  · rw [Trace.warnings_map, Trace.warnings_relabel]
  · rfl
  · apply List.length_map
  · apply List.length_map
  · rw [Trace.completes_map, Trace.completes_relabel, Trace.compiled_map, Trace.compiled_relabel]
    split <;> rfl

theorem relabel_compile (graph : Graph) :
    (graph.relabel new).compile options summary description =
      (graph.compile options summary description).relabel new := by
  have inputs : (graph.relabel new).inputs = graph.inputs.map (Node.relabel new) :=
    inputs_relabel new
  have nodeCount : (graph.relabel new).nodes.length = graph.nodes.length := List.length_map _
  have edgeCount : (graph.relabel new).edges.length = graph.edges.length := List.length_map _
  rcases graph.inputs_cases with noInput | ⟨entry, single⟩ | several
  · have noInputThere : (graph.relabel new).inputs = [] := by rw [inputs, noInput, List.map_nil]
    rw [compile_of_no_input options summary description noInput,
      compile_of_no_input options summary description noInputThere, nodeCount, edgeCount]
    rfl
  · exact relabel_compile_of_input new options summary description single
  · have severalThere : 2 ≤ (graph.relabel new).inputs.length := by
      rw [inputs, List.length_map]
      exact several
    rw [compile_of_inputs options summary description several,
      compile_of_inputs options summary description severalThere, nodeCount, edgeCount, inputs]
    simp [Compilation.relabel, Compilation.hasEntry, CompileError.relabel, Except.mapError,
      Except.map]

/-- Ids are compared for being the same and for nothing else, and expressions are not looked into:
under other ids and with other expressions a graph compiles to the same, except that these stand
where the old ones stood. -/
theorem compile_relabelled (graph : Graph) :
    let before := graph.compile options summary description
    let after := (graph.relabel new).compile options summary description
    after.succeeded = before.succeeded ∧
    after.failure? = before.failure? ∧
    (after.error?.map CompileError.nodes = before.error?.map fun error =>
      error.nodes.map new.id) ∧
    (after.warnings.map Warning.report = before.warnings.map fun warning =>
      (warning.kind, new.id warning.node, warning.edgeId?)) ∧
    after.compiled = before.compiled.map new.id ∧
    (∀ entry, graph.inputs = [entry] → after.entry = new.id before.entry) ∧
    after.document? = before.document?.map (Document.relabel new) ∧
    after.document?.map Document.schema = before.document?.map Document.schema := by
  intro before after
  have same : after = before.relabel new := relabel_compile new options summary description graph
  rw [same]
  refine ⟨?_, ?_, ?_, ?_, ?_, ?_, ?_, ?_⟩
  · apply Compilation.succeeded_relabel
  · simp [Compilation.failure?, Compilation.error?_relabel, Function.comp_def]
  · simp [Compilation.error?_relabel, Function.comp_def]
  · simp [Compilation.relabel, Function.comp_def, Warning.report_relabel]
  · rfl
  · intro entry single
    apply if_pos
    exact hasEntry_of_input options summary description single
  · apply Compilation.document?_relabel
  · rw [Compilation.document?_relabel, Option.map_map]
    rfl

/-- Ids with a prefix, and expressions in brackets. -/
def prefixed : Relabelling where
  id name := "node-" ++ name
  expression text := "(" ++ text ++ ")"
  injective _ _ same := Text.append_right_inj.mp same

example : ((forked.relabel prefixed).compile .default "" "").compiled =
    ["node-check", "node-send", "node-done", "node-send", "node-done", "node-done"] := by
  decide +kernel

end Flowchart.Graph
