import Flowchart.Compile.Compilation
import Flowchart.Proofs.Walk

/-!
What comes of a compilation: it fails without an input node, with several, or because an id comes
twice along the steps that follow from the only one; there is no other failure.
-/

namespace Flowchart

namespace Compilation

variable {compilation : Compilation}

/-- The kind of failure, if there is one. -/
def failure? (compilation : Compilation) : Option Text :=
  compilation.error?.map CompileError.kind

theorem succeeded_iff_result :
    compilation.succeeded = true ↔ ∃ document, compilation.result = .ok document := by
  cases result : compilation.result <;> simp [succeeded, result, Except.isOk, Except.toBool]

theorem succeeded_iff_document? :
    compilation.succeeded = true ↔ compilation.document?.isSome = true := by
  cases result : compilation.result <;>
    simp [succeeded, document?, result, Except.isOk, Except.toBool, Except.toOption]

theorem succeeded_iff_error? :
    compilation.succeeded = true ↔ compilation.error? = none := by
  cases result : compilation.result <;>
    simp [succeeded, error?, result, Except.isOk, Except.toBool]

theorem status_eq_notCompilable_iff :
    compilation.status = .notCompilable ↔ compilation.succeeded = false := by
  cases result : compilation.result with
  | error error => simp [succeeded, status, result, Except.isOk, Except.toBool]
  | ok document =>
      by_cases quiet : compilation.warnings = [] <;>
        simp [succeeded, status, result, quiet, Except.isOk, Except.toBool]

theorem status_eq_compiledWithWarnings_iff :
    compilation.status = .compiledWithWarnings ↔
      compilation.succeeded = true ∧ compilation.warnings ≠ [] := by
  cases result : compilation.result with
  | error error => simp [succeeded, status, result, Except.isOk, Except.toBool]
  | ok document =>
      by_cases quiet : compilation.warnings = [] <;>
        simp [succeeded, status, result, quiet, Except.isOk, Except.toBool]

theorem status_eq_compiled_iff :
    compilation.status = .compiled ↔
      compilation.succeeded = true ∧ compilation.warnings = [] := by
  cases result : compilation.result with
  | error error => simp [succeeded, status, result, Except.isOk, Except.toBool]
  | ok document =>
      by_cases quiet : compilation.warnings = [] <;>
        simp [succeeded, status, result, quiet, Except.isOk, Except.toBool]

theorem failure?_of_error {error : CompileError} (failed : compilation.result = .error error) :
    compilation.failure? = some error.kind := by
  simp [failure?, error?, failed]

theorem document?_of_failed (failed : compilation.succeeded = false) :
    compilation.document? = none := by
  cases document : compilation.document? with
  | none => rfl
  | some document' =>
      have succeeded := succeeded_iff_document?.mpr (by rw [document]; rfl)
      simp [failed] at succeeded

end Compilation

namespace Graph

variable {graph : Graph} {entry : Node}

theorem mem_nodes_of_inputs (single : graph.inputs = [entry]) : entry ∈ graph.nodes :=
  mem_of_mem_inputs (by simp [single])

theorem isInput_of_inputs (single : graph.inputs = [entry]) : entry.isInput = true := by
  have isInput : entry ∈ graph.inputs := by simp [single]
  exact (List.mem_filter.mp isInput).2

variable (options : Options) (summary description : Text)

theorem compile_of_no_input (noInput : graph.inputs = []) :
    graph.compile options summary description =
      { result := .error .noEntry
        warnings := []
        entry := ""
        nodeCount := graph.nodes.length
        edgeCount := graph.edges.length
        compiled := [] } := by
  unfold compile
  split <;> simp_all

theorem compile_of_inputs (several : 2 ≤ graph.inputs.length) :
    graph.compile options summary description =
      { result := .error (.multipleEntries (graph.inputs.map Node.id))
        warnings := []
        entry := ""
        nodeCount := graph.nodes.length
        edgeCount := graph.edges.length
        compiled := [] } := by
  unfold compile
  split <;> simp_all

theorem compile_of_input (single : graph.inputs = [entry]) :
    graph.compile options summary description =
      { result := ((graph.walkFrom entry).outcome.mapError .cycle).map fun modules =>
          ⟨summary, description, modules, InputSchema.derive options entry.properties⟩
        warnings := (graph.walkFrom entry).warnings
        entry := entry.id
        nodeCount := graph.nodes.length
        edgeCount := graph.edges.length
        compiled :=
          if (graph.walkFrom entry).completes then (graph.walkFrom entry).compiled else [] } := by
  rw [walkFrom_of_mem (mem_nodes_of_inputs single)]
  unfold compile
  split
  · simp_all
  · next other found =>
    obtain rfl : entry = other := by simpa [single] using found
    cases outcome : (graph.walk [] ⟨entry, mem_nodes_of_inputs single⟩).outcome <;>
      simp [outcome, Trace.completes, Except.isOk, Except.toBool, Except.mapError, Except.map]
  · simp_all

theorem succeeded_eq_completes (single : graph.inputs = [entry]) :
    (graph.compile options summary description).succeeded =
      (graph.walkFrom entry).completes := by
  rw [compile_of_input options summary description single]
  cases outcome : (graph.walkFrom entry).outcome <;>
    simp [Compilation.succeeded, outcome, Trace.completes, Except.isOk, Except.toBool,
      Except.mapError, Except.map]

theorem failure?_of_no_input (noInput : graph.inputs = []) :
    (graph.compile options summary description).failure? = some "no_entry_node" := by
  rw [compile_of_no_input options summary description noInput]
  rfl

theorem failure?_of_inputs (several : 2 ≤ graph.inputs.length) :
    (graph.compile options summary description).failure? = some ("multiple_entry_nodes" : Text) := by
  rw [compile_of_inputs options summary description several]
  rfl

theorem failure?_of_input (single : graph.inputs = [entry]) :
    (graph.compile options summary description).failure? =
      if (graph.walkFrom entry).completes then none else some "cycle_detected" := by
  rw [compile_of_input options summary description single]
  cases outcome : (graph.walkFrom entry).outcome <;>
    simp [Compilation.failure?, Compilation.error?, outcome, Trace.completes, Except.isOk,
      Except.toBool, Except.mapError, Except.map, CompileError.kind]

theorem inputs_cases (graph : Graph) :
    graph.inputs = [] ∨ (∃ entry, graph.inputs = [entry]) ∨ 2 ≤ graph.inputs.length := by
  cases graph.inputs with
  | nil => exact .inl rfl
  | cons first others =>
      cases others with
      | nil => exact .inr (.inl ⟨first, rfl⟩)
      | cons second others => exact .inr (.inr (by simp))

/-- A graph that compiles has a single input node, and the walk from it completes. -/
theorem exists_entry_of_succeeded {options : Options} {summary description : Text}
    (succeeded : (graph.compile options summary description).succeeded = true) :
    ∃ entry, graph.inputs = [entry] ∧ (graph.walkFrom entry).completes = true := by
  rcases graph.inputs_cases with noInput | ⟨entry, single⟩ | several
  · rw [compile_of_no_input options summary description noInput] at succeeded
    exact absurd succeeded Bool.false_ne_true
  · exact ⟨entry, single, succeeded_eq_completes options summary description single ▸ succeeded⟩
  · rw [compile_of_inputs options summary description several] at succeeded
    exact absurd succeeded Bool.false_ne_true

theorem result_of_input (single : graph.inputs = [entry])
    (completed : (graph.walkFrom entry).completes = true) :
    (graph.compile options summary description).result =
      .ok ⟨summary, description, (graph.walkFrom entry).modules,
        InputSchema.derive options entry.properties⟩ := by
  rw [compile_of_input options summary description single, Trace.outcome_eq_modules completed]
  rfl

theorem document?_of_input (single : graph.inputs = [entry])
    (completed : (graph.walkFrom entry).completes = true) :
    (graph.compile options summary description).document? =
      some ⟨summary, description, (graph.walkFrom entry).modules,
        InputSchema.derive options entry.properties⟩ := by
  rw [Compilation.document?, result_of_input options summary description single completed]
  rfl

theorem compiled_of_failed
    (failed : (graph.compile options summary description).succeeded = false) :
    (graph.compile options summary description).compiled = [] := by
  rcases graph.inputs_cases with noInput | ⟨entry, single⟩ | several
  · rw [compile_of_no_input options summary description noInput]
  · rw [succeeded_eq_completes options summary description single] at failed
    rw [compile_of_input options summary description single]
    simp [failed]
  · rw [compile_of_inputs options summary description several]

theorem failure?_eq_noEntry_iff :
    (graph.compile options summary description).failure? = some "no_entry_node" ↔
      graph.inputs = [] := by
  constructor
  · intro told
    rcases graph.inputs_cases with noInput | ⟨entry, single⟩ | several
    · exact noInput
    · rw [failure?_of_input options summary description single] at told
      split at told <;> simp at told
    · rw [failure?_of_inputs options summary description several] at told
      simp at told
  · exact failure?_of_no_input options summary description

theorem failure?_eq_multipleEntries_iff :
    (graph.compile options summary description).failure? = some "multiple_entry_nodes" ↔
      2 ≤ graph.inputs.length := by
  constructor
  · intro told
    rcases graph.inputs_cases with noInput | ⟨entry, single⟩ | several
    · rw [failure?_of_no_input options summary description noInput] at told
      simp at told
    · rw [failure?_of_input options summary description single] at told
      split at told <;> simp at told
    · exact several
  · exact failure?_of_inputs options summary description

theorem nodes_of_multipleEntries {error : CompileError}
    (failed : (graph.compile options summary description).error? = some error)
    (kind : error.kind = "multiple_entry_nodes") : error.nodes = graph.inputs.map Node.id := by
  have told : (graph.compile options summary description).failure? =
      some ("multiple_entry_nodes" : Text) := by
    rw [Compilation.failure?, failed, Option.map_some, kind]
  have several := (failure?_eq_multipleEntries_iff options summary description).mp told
  rw [compile_of_inputs options summary description several] at failed
  obtain rfl : CompileError.multipleEntries (graph.inputs.map Node.id) = error := by
    simpa [Compilation.error?] using failed
  rfl

theorem succeeded_iff_of_input (single : graph.inputs = [entry]) :
    (graph.compile options summary description).succeeded = true ↔ ¬graph.Circles entry := by
  rw [succeeded_eq_completes options summary description single]
  exact completes_walkFrom_iff (mem_nodes_of_inputs single)

theorem failure?_eq_cycle_iff_of_input (single : graph.inputs = [entry]) :
    (graph.compile options summary description).failure? = some "cycle_detected" ↔
      graph.Circles entry := by
  have completed := completes_walkFrom_iff (mem_nodes_of_inputs single)
  rw [failure?_of_input options summary description single]
  split
  · next ended =>
    constructor
    · intro impossible
      simp at impossible
    · intro circles
      exact absurd circles (completed.mp ended)
  · next stuck =>
    constructor
    · intro _
      exact not_not.mp (mt completed.mpr stuck)
    · intro _
      rfl

/-- Every outcome of a compilation, told by the graph alone. -/
theorem compile_outcome (graph : Graph) :
    let compilation := graph.compile options summary description
    (compilation.failure? = some "no_entry_node" ↔ graph.inputs = []) ∧
    (compilation.failure? = some "multiple_entry_nodes" ↔ 2 ≤ graph.inputs.length) ∧
    (∀ error, compilation.error? = some error → error.kind = "multiple_entry_nodes" →
      error.nodes = graph.inputs.map Node.id) ∧
    (∀ entry, graph.inputs = [entry] →
      compilation.entry = entry.id ∧
      (compilation.failure? = some "cycle_detected" ↔ graph.Circles entry) ∧
      (compilation.succeeded = true ↔ ¬graph.Circles entry)) ∧
    (compilation.succeeded = true ↔ compilation.document?.isSome = true) ∧
    (compilation.succeeded = true ↔ compilation.error? = none) ∧
    (compilation.status = .notCompilable ↔ compilation.succeeded = false) ∧
    (compilation.succeeded = false →
      compilation.document? = none ∧ compilation.compiled = []) := by
  intro compilation
  refine ⟨?_, ?_, ?_, ?_, ?_, ?_, ?_, ?_⟩
  · exact failure?_eq_noEntry_iff options summary description
  · exact failure?_eq_multipleEntries_iff options summary description
  · intro error failed kind
    exact nodes_of_multipleEntries options summary description failed kind
  · intro entry single
    refine ⟨?_, ?_, ?_⟩
    · simp only [compilation, compile_of_input options summary description single]
    · exact failure?_eq_cycle_iff_of_input options summary description single
    · exact succeeded_iff_of_input options summary description single
  · exact Compilation.succeeded_iff_document?
  · exact Compilation.succeeded_iff_error?
  · exact Compilation.status_eq_notCompilable_iff
  · intro failed
    exact ⟨Compilation.document?_of_failed failed,
      compiled_of_failed options summary description failed⟩

end Graph

end Flowchart
