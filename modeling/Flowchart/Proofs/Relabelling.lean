import Flowchart.Proofs.Anomaly

/-!
Other ids and expressions, put in the place of the old ones: in a graph, in all that a walk notes and
ends with, and in what a compilation reports. Ids that differ get ids that differ, so warnings that
are told apart by the old ids are told apart by the new ones.
-/

namespace Flowchart

/-- What ids and expressions are changed into. Different ids stay different. -/
structure Relabelling where
  id : Text → Text
  expression : Text → Text
  injective : Function.Injective id

section

variable (new : Relabelling)

def Binding.relabel (binding : Binding) : Binding :=
  { binding with expression := new.expression binding.expression }

def BranchRow.relabel (row : BranchRow) : BranchRow :=
  { row with expression := new.expression row.expression }

def Payload.relabel : Payload → Payload
  | .input properties => .input properties
  | .action name bindings => .action name (bindings.map (Binding.relabel new))
  | .condition rows => .condition (rows.map (BranchRow.relabel new))

def Node.relabel (node : Node) : Node :=
  { node with id := new.id node.id, payload := node.payload.relabel new }

def Edge.relabel (edge : Edge) : Edge :=
  { edge with source := new.id edge.source, target := new.id edge.target }

def Graph.relabel (graph : Graph) : Graph where
  nodes := graph.nodes.map (Node.relabel new)
  edges := graph.edges.map (Edge.relabel new)

def Warning.relabel : Warning → Warning
  | .unresolvedTarget node edge => .unresolvedTarget (new.id node) (edge.relabel new)
  | .missingBranchEdge node row => .missingBranchEdge (new.id node) (row.relabel new)
  | .ambiguousSuccessor node edge outgoing =>
      .ambiguousSuccessor (new.id node) (edge.relabel new) outgoing
  | .incompleteAction node => .incompleteAction (new.id node)

def Note.relabel : Note → Note
  | .compiled node => .compiled (new.id node)
  | .warned warning => .warned (warning.relabel new)

def CompileError.relabel : CompileError → CompileError
  | .noEntry => .noEntry
  | .multipleEntries ids => .multipleEntries (ids.map new.id)
  | .cycle ids => .cycle (ids.map new.id)

mutual

def Module.relabel : Module → Module
  | .script id summary path transforms =>
      .script (new.id id) summary path (transforms.mapValues new.expression)
  | .branchOne id summary default branches =>
      .branchOne (new.id id) summary (relabelModules default) (relabelBranches branches)

def Branch.relabel : Branch → Branch
  | .mk summary expression modules =>
      .mk summary (new.expression expression) (relabelModules modules)

def relabelModules : List Module → List Module
  | [] => []
  | first :: rest => first.relabel :: relabelModules rest

def relabelBranches : List Branch → List Branch
  | [] => []
  | first :: rest => first.relabel :: relabelBranches rest

end

theorem relabelModules_eq_map (modules : List Module) :
    relabelModules new modules = modules.map (Module.relabel new) := by
  induction modules with
  | nil => rfl
  | cons first rest inductionHypothesis =>
      rw [relabelModules, inductionHypothesis, List.map_cons]

theorem relabelBranches_eq_map (branches : List Branch) :
    relabelBranches new branches = branches.map (Branch.relabel new) := by
  induction branches with
  | nil => rfl
  | cons first rest inductionHypothesis =>
      rw [relabelBranches, inductionHypothesis, List.map_cons]

@[simp]
theorem Module.relabel_branchOne (id : Text) (summary : Option Text) (default : List Module)
    (branches : List Branch) :
    (branchOne id summary default branches).relabel new =
      branchOne (new.id id) summary (default.map (Module.relabel new))
        (branches.map (Branch.relabel new)) := by
  rw [relabel, relabelModules_eq_map, relabelBranches_eq_map]

@[simp]
theorem Branch.relabel_mk (summary expression : Text) (modules : List Module) :
    (mk summary expression modules).relabel new =
      mk summary (new.expression expression) (modules.map (Module.relabel new)) := by
  rw [relabel, relabelModules_eq_map]

@[simp]
theorem relabel_scriptModule (id : Text) (name : Option Text) (bindings : List Binding) :
    (scriptModule id name bindings).relabel new =
      scriptModule (new.id id) name (bindings.map (Binding.relabel new)) := by
  rw [scriptModule, scriptModule, Module.relabel, Keyed.mapValues_ofList, List.map_map,
    List.map_map]
  rfl

def Document.relabel (document : Document) : Document :=
  { document with modules := document.modules.map (Module.relabel new) }

/-- Whether there is exactly one input node. -/
def Compilation.hasEntry (compilation : Compilation) : Bool :=
  match compilation.result with
  | .error .noEntry => false
  | .error (.multipleEntries _) => false
  | _ => true

def Compilation.relabel (compilation : Compilation) : Compilation :=
  { compilation with
    result := (compilation.result.mapError (CompileError.relabel new)).map (Document.relabel new)
    warnings := compilation.warnings.map (Warning.relabel new)
    entry := if compilation.hasEntry then new.id compilation.entry else compilation.entry
    compiled := compilation.compiled.map new.id }

/-- The same walk, noted under the new ids and ended by the same cycle. -/
def Trace.relabel {α : Type} (trace : Trace α) : Trace α where
  log := trace.log.map (Note.relabel new)
  outcome := trace.outcome.mapError (List.map new.id)

@[simp]
theorem Node.id_relabel (node : Node) : (node.relabel new).id = new.id node.id := rfl

@[simp]
theorem Node.payload_relabel (node : Node) :
    (node.relabel new).payload = node.payload.relabel new := rfl

@[simp]
theorem Node.isInput_relabel (node : Node) : (node.relabel new).isInput = node.isInput := by
  cases payload : node.payload <;>
    simp [isInput, kind, relabel, payload, Payload.relabel, Payload.kind]

@[simp]
theorem Node.properties_relabel (node : Node) :
    (node.relabel new).properties = node.properties := by
  cases payload : node.payload <;> simp [properties, relabel, payload, Payload.relabel]

@[simp]
theorem Edge.target_relabel (edge : Edge) : (edge.relabel new).target = new.id edge.target := rfl

@[simp]
theorem CompileError.kind_relabel (error : CompileError) :
    (error.relabel new).kind = error.kind := by
  cases error <;> rfl

@[simp]
theorem CompileError.nodes_relabel (error : CompileError) :
    (error.relabel new).nodes = error.nodes.map new.id := by
  cases error <;> rfl

theorem Warning.report_relabel (warning : Warning) :
    (warning.relabel new).report = (warning.kind, new.id warning.node, warning.edgeId?) := by
  cases warning <;> rfl

end

namespace Warning

variable (new : Relabelling)

def Key.relabel (key : Key) : Key :=
  { key with node := new.id key.node, target := key.target.map new.id }

theorem key_relabel (warning : Warning) : (warning.relabel new).key = warning.key.relabel new := by
  cases warning <;> rfl

theorem Key.relabel_injective : Function.Injective (Key.relabel new) := by
  intro first second same
  have targets := Option.map_injective new.injective
  obtain ⟨kind, node, branch, edgeId, handle, target⟩ := first
  obtain ⟨otherKind, otherNode, otherBranch, otherEdgeId, otherHandle, otherTarget⟩ := second
  simpa [Key.relabel, new.injective.eq_iff, targets.eq_iff] using same

/-- What is told twice under the old ids is told twice under the new ones, and nothing else. -/
theorem distinct_relabel (seen : List Key) (warnings : List Warning) :
    distinct (seen.map (Key.relabel new)) (warnings.map (Warning.relabel new)) =
      (distinct seen warnings).map (Warning.relabel new) := by
  induction warnings generalizing seen with
  | nil => rfl
  | cons warning rest inductionHypothesis =>
      have known_iff : warning.key.relabel new ∈ seen.map (Key.relabel new) ↔ warning.key ∈ seen :=
        List.mem_map_of_injective (Key.relabel_injective new)
      have later := inductionHypothesis (warning.key :: seen)
      by_cases known : warning.key ∈ seen
      · rw [List.map_cons, distinct, distinct, key_relabel, if_pos known,
          if_pos (known_iff.mpr known), inductionHypothesis]
      · rw [List.map_cons, distinct, distinct, key_relabel, if_neg known,
          if_neg (mt known_iff.mp known), ← List.map_cons, later, List.map_cons]

end Warning

namespace Trace

variable {α β : Type} (new : Relabelling)

@[simp]
theorem relabel_pure (value : α) : (Pure.pure value : Trace α).relabel new = Pure.pure value := rfl

@[simp]
theorem relabel_bind (trace : Trace α) (next : α → Trace β) :
    (trace >>= next).relabel new = trace.relabel new >>= fun value => (next value).relabel new := by
  obtain ⟨log, outcome⟩ := trace
  cases outcome <;> simp [relabel, ok_bind, error_bind, Except.mapError]

@[simp]
theorem relabel_map (change : α → β) (trace : Trace α) :
    (change <$> trace).relabel new = change <$> trace.relabel new := by
  rw [map_eq_pure_bind, map_eq_pure_bind, relabel_bind]
  rfl

theorem relabel_cycle (ids : List Text) :
    (cycle ids : Trace α).relabel new = cycle (ids.map new.id) := rfl

@[simp]
theorem relabel_note (entry : Note) : (note entry).relabel new = note (entry.relabel new) := rfl

@[simp]
theorem relabel_warn (warning : Warning) :
    (warn warning).relabel new = warn (warning.relabel new) := rfl

@[simp]
theorem relabel_warnIf (case : Prop) [Decidable case] (warning : Warning) :
    (warnIf case warning).relabel new = warnIf case (warning.relabel new) := by
  unfold warnIf
  split <;> rfl

theorem relabel_collect {γ δ : Type} {step : α → Trace (Option β)} {again : γ → Trace (Option δ)}
    {item : α → γ} {result : β → δ} {items : List α}
    (agrees : ∀ old ∈ items, again (item old) = Option.map result <$> (step old).relabel new) :
    collect again (items.map item) = List.map result <$> (collect step items).relabel new := by
  induction items with
  | nil => rfl
  | cons first rest inductionHypothesis =>
      have later := inductionHypothesis fun old member => agrees old (List.mem_cons_of_mem _ member)
      rw [List.map_cons, collect_cons, collect_cons, agrees first List.mem_cons_self, later]
      simp only [relabel_bind, relabel_pure, map_bind, bind_map_left, map_pure, List.map_append,
        Option.toList_map]

theorem outcome_map_relabel (change : α → β) (trace : Trace α) :
    (change <$> trace.relabel new).outcome =
      (trace.outcome.mapError (List.map new.id)).map change := by
  obtain ⟨log, outcome⟩ := trace
  cases outcome <;> simp [relabel, Except.mapError, Except.map]

theorem completes_relabel (trace : Trace α) : (trace.relabel new).completes = trace.completes := by
  obtain ⟨log, outcome⟩ := trace
  cases outcome <;> rfl

theorem compiled_relabel (trace : Trace α) :
    (trace.relabel new).compiled = trace.compiled.map new.id := by
  rw [compiled_eq, compiled_eq, relabel, List.filterMap_map, List.map_filterMap]
  apply List.filterMap_congr
  intro entry _
  cases entry <;> rfl

theorem warnings_relabel (trace : Trace α) :
    (trace.relabel new).warnings = trace.warnings.map (Warning.relabel new) := by
  have warned : (trace.log.map (Note.relabel new)).filterMap Note.warning? =
      (trace.log.filterMap Note.warning?).map (Warning.relabel new) := by
    rw [List.filterMap_map, List.map_filterMap]
    apply List.filterMap_congr
    intro entry _
    cases entry <;> rfl
  rw [warnings_eq, warnings_eq, relabel, warned]
  exact Warning.distinct_relabel new [] _

end Trace

namespace Compilation

variable (new : Relabelling) (compilation : Compilation)

theorem succeeded_relabel : (compilation.relabel new).succeeded = compilation.succeeded := by
  cases result : compilation.result <;>
    simp [succeeded, relabel, result, Except.mapError, Except.map, Except.isOk, Except.toBool]

theorem document?_relabel :
    (compilation.relabel new).document? = compilation.document?.map (Document.relabel new) := by
  cases result : compilation.result <;>
    simp [document?, relabel, result, Except.mapError, Except.map, Except.toOption]

theorem error?_relabel :
    (compilation.relabel new).error? = compilation.error?.map (CompileError.relabel new) := by
  cases result : compilation.result <;>
    simp [error?, relabel, result, Except.mapError, Except.map]

end Compilation

end Flowchart
