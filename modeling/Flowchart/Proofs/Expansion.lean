import Flowchart.Compile.Walk
import Flowchart.Proofs.Followed
import Flowchart.Proofs.Keyed
import Flowchart.Proofs.Trace

/-!
What a node makes of the nodes that follow it. However the node is built, its expansion is an
opening of its own and then its ways out, one after the other: this settles the log and whether the
expansion completes. The modules of a completed expansion are those of `unroll`, which knows
neither log nor path.
-/

namespace Flowchart

/-- Goes one way: the trace of the node that it leads to, or a warning. -/
def Way.take (below : Node → Trace Unit) : Way → Trace Unit
  | .onward target => below target
  | .lost warning => Trace.warn warning

/-- The modules of a trace, none if a cycle ended it. -/
def Trace.modules (trace : Trace (List Module)) : List Module :=
  match trace.outcome with
  | .ok modules => modules
  | .error _ => []

theorem Trace.outcome_eq_modules {trace : Trace (List Module)}
    (completed : trace.completes = true) : trace.outcome = .ok trace.modules := by
  obtain ⟨modules, result⟩ := Trace.completes_iff.mp completed
  simp [Trace.modules, result]

namespace Graph

section

variable (graph : Graph)

def ambiguities (node : Node) : List Warning :=
  match graph.outgoing node.id with
  | edge :: _ :: others => [.ambiguousSuccessor node.id edge (others.length + 2)]
  | _ => []

/-- What a node is warned about wherever its edges lead. -/
def ownWarnings (node : Node) : List Warning :=
  match node.payload with
  | .input _ => graph.ambiguities node
  | .action name _ =>
      (if name.getD "" = "" then [.incompleteAction node.id] else []) ++ graph.ambiguities node
  | .condition _ => []

/-- What a node notes before its ways out are taken. -/
def opening (node : Node) : List Note :=
  (if node.isInput then [] else [.compiled node.id]) ++ (graph.ownWarnings node).map .warned

/-- What the nodes of the unfolding contribute, listed in the order of a walk: each node its own
part first, then the parts behind its ways out. -/
def listing {β : Type} (own : Node → List β) (lost : Node → Warning → List β)
    (below : Node → List β) (node : Node) : List β :=
  own node ++ (graph.ways node).flatMap fun
    | .onward target => below target
    | .lost warning => lost node warning

def record : (Node → List Note) → Node → List Note :=
  graph.listing graph.opening fun _ warning => [.warned warning]

/-- The modules of a node, by those of the nodes that follow it. -/
def unroll (below : Node → List Module) (node : Node) : List Module :=
  let behind (edge? : Option Edge) : List Module := (graph.target? edge?).elim [] below
  match node.payload with
  | .input _ => behind (graph.outgoing node.id).head?
  | .action name bindings =>
      .script node.id none name
          (.ofLastGiven (bindings.map fun binding => (binding.parameter, binding.expression))) ::
        behind (graph.outgoing node.id).head?
  | .condition rows =>
      [.branchOne node.id (some "") (behind (graph.edge? node.id (some defaultHandle)))
        (rows.filterMap fun row =>
          (graph.target? (graph.edge? node.id (some row.id))).map fun target =>
            .mk row.label row.expression (below target))]

end

section

variable {graph : Graph} (enter : graph.Member → Trace (List Module)) (node : Node)

/-- The traces of a graph's members as traces of nodes. -/
def onNodes (node : Node) : Trace (List Module) :=
  if member : node ∈ graph.nodes then enter ⟨node, member⟩ else Trace.pure []

theorem onNodes_of_mem (member : graph.Member) : onNodes enter member = enter member :=
  dif_pos member.property

theorem onNodes_of_follows {source target : Node} (step : graph.Follows source target) :
    onNodes enter target = enter ⟨target, step.mem_nodes⟩ :=
  onNodes_of_mem enter ⟨target, step.mem_nodes⟩

theorem behind_of_found {edge : Edge} {target : Node}
    (found : graph.node? edge.target = some target) :
    graph.behind enter node edge = some <$> onNodes enter target := by
  have entered := onNodes_of_mem enter ⟨target, mem_of_node? found⟩
  unfold behind resolve
  split
  · next other otherFound =>
    obtain rfl : target = other := Option.some.inj (found.symm.trans otherFound)
    simp [entered]
  · next missing => simp [found] at missing

theorem behind_of_missing {edge : Edge} (missing : graph.node? edge.target = none) :
    graph.behind enter node edge =
      Trace.warn (.unresolvedTarget node.id edge) >>= fun _ => pure none := by
  unfold behind resolve
  split
  · next target found => simp [missing] at found
  · rfl

theorem void_behind (edge : Edge) :
    (graph.behind enter node edge).void =
      (graph.way node edge).take fun target => (onNodes enter target).void := by
  cases found : graph.node? edge.target with
  | some target => simp [behind_of_found enter node found, way, found, Way.take]
  | none =>
      rw [behind_of_missing enter node found]
      simp [way, found, Way.take, Trace.warn_eq_tell]

theorem void_branch? (row : BranchRow) :
    (graph.branch? enter node row).void =
      (graph.rowWay node row).take fun target => (onNodes enter target).void := by
  cases found : graph.edge? node.id (some row.id) with
  | some edge => simp [branch?, rowWay, found, void_behind]
  | none => simp [branch?, rowWay, found, Way.take, Trace.warn_eq_tell]

theorem void_successors :
    (graph.successors enter node).void =
      Trace.tell ((graph.ambiguities node).map .warned) >>= fun _ =>
        forM ((graph.outgoing node.id).head?.toList.map (graph.way node))
          (Way.take fun target => (onNodes enter target).void) := by
  cases edges : graph.outgoing node.id with
  | nil => simp [successors, ambiguities, edges]
  | cons edge others =>
      cases others <;>
        simp [successors, ambiguities, edges, void_behind, Trace.warnIf_eq_tell]

theorem void_defaults :
    (graph.defaults enter node).void =
      forM ((graph.edge? node.id (some defaultHandle)).toList.map (graph.way node))
        (Way.take fun target => (onNodes enter target).void) := by
  cases found : graph.edge? node.id (some defaultHandle) with
  | none => simp [defaults, found]
  | some edge => simp [defaults, found, void_behind]

/-- An expansion is the opening of its node and then the ways out of it, one after the other. -/
theorem void_expand :
    (graph.expand enter node).void =
      Trace.tell (graph.opening node) >>= fun _ =>
        forM (graph.ways node) (Way.take fun target => (onNodes enter target).void) := by
  unfold expand opening ownWarnings ways
  cases payload : node.payload with
  | input properties => simp [void_successors, Node.isInput, Node.kind, payload, Payload.kind]
  | action name bindings =>
      simp [void_successors, Node.isInput, Node.kind, payload, Payload.kind, Trace.note_eq_tell,
        Trace.warnIf_eq_tell]
  | condition rows =>
      -- The branches come after the defaults, whose modules do not matter to the log.
      have inOrder := Trace.void_then (graph.defaults enter node) fun _ =>
        (Trace.collect (graph.branch? enter node) rows).void
      rw [void_defaults, Trace.void_collect] at inOrder
      simp only [void_branch?] at inOrder
      simp [Node.isInput, Node.kind, payload, Payload.kind, Trace.note_eq_tell,
        Trace.void_collect, void_branch?, ← inOrder]

theorem completes_expand_iff :
    (graph.expand enter node).completes = true ↔
      ∀ target, graph.Follows node target → (onNodes enter target).completes = true := by
  rw [← Trace.completes_void, void_expand, Trace.completes_tell_then, Trace.completes_forM_iff]
  constructor
  · intro completed target step
    simpa [Way.take] using completed _ (onward_mem_ways_iff.mpr step)
  · intro completed way member
    cases way with
    | onward target => simpa [Way.take] using completed target (onward_mem_ways_iff.mp member)
    | lost warning => rfl

variable {enter node}

/-- Whatever is noted in an expansion is of the node's own opening, a way that leads nowhere, or
noted at a node that follows. -/
theorem mem_log_expand {entry : Note} (noted : entry ∈ (graph.expand enter node).log) :
    entry ∈ graph.opening node ∨
      (∃ warning, .lost warning ∈ graph.ways node ∧ entry = .warned warning) ∨
      ∃ target, graph.Follows node target ∧ entry ∈ (onNodes enter target).log := by
  rw [← Trace.log_void, void_expand, Trace.log_tell_then, List.mem_append] at noted
  rcases noted with own | further
  · exact .inl own
  · obtain ⟨way, taken, here⟩ := Trace.exists_of_mem_log_forM further
    cases way with
    | onward target =>
        rw [Way.take, Trace.log_void] at here
        exact .inr (.inr ⟨target, onward_mem_ways_iff.mp taken, here⟩)
    | lost warning => exact .inr (.inl ⟨warning, taken, List.mem_singleton.mp here⟩)

section

variable (completed : ∀ target, graph.Follows node target →
  (onNodes enter target).completes = true)
include completed

theorem log_expand :
    (graph.expand enter node).log =
      graph.record (fun target => (onNodes enter target).log) node := by
  have taken : ∀ way ∈ graph.ways node,
      (way.take fun target => (onNodes enter target).void).completes = true := by
    intro way member
    cases way with
    | onward target => simpa [Way.take] using completed target (onward_mem_ways_iff.mp member)
    | lost warning => rfl
  rw [← Trace.log_void, void_expand, Trace.log_tell_then, Trace.log_forM taken, record, listing]
  congr 2
  funext way
  cases way <;> simp [Way.take, Trace.warn, Trace.note]

theorem outcome_behind {edge : Edge} (followed : edge ∈ graph.followed node) :
    (graph.behind enter node edge).outcome =
      .ok ((graph.target? (some edge)).map fun target => (onNodes enter target).modules) := by
  cases found : graph.node? edge.target with
  | none =>
      rw [behind_of_missing enter node found]
      simp [target?, found]
      rfl
  | some target =>
      have ended := Trace.outcome_eq_modules (completed target ⟨edge, followed, found⟩)
      rw [behind_of_found enter node found, Trace.outcome_map ended]
      simp [target?, found]

theorem outcome_successors (linear : node.kind ≠ .condition) :
    (graph.successors enter node).outcome =
      .ok ((graph.target? (graph.outgoing node.id).head?).elim [] fun target =>
        (onNodes enter target).modules) := by
  cases edges : graph.outgoing node.id with
  | nil => simp [successors, edges, target?, Pure.pure, Trace.pure]
  | cons edge others =>
      have ended := outcome_behind completed (first_mem_followed linear (by rw [edges]; rfl))
      simp only [successors, edges, Trace.warnIf_eq_tell]
      rw [Trace.outcome_tell_then, Trace.outcome_bind ended]
      cases found : graph.target? (some edge) <;> simp [found, Pure.pure, Trace.pure]

theorem outcome_defaults {rows : List BranchRow} (payload : node.payload = .condition rows) :
    (graph.defaults enter node).outcome =
      .ok ((graph.target? (graph.edge? node.id (some defaultHandle))).elim [] fun target =>
        (onNodes enter target).modules) := by
  cases found : graph.edge? node.id (some defaultHandle) with
  | none => simp [defaults, found, target?, Pure.pure, Trace.pure]
  | some edge =>
      have ended := outcome_behind completed (default_mem_followed payload found)
      simp only [defaults, found]
      rw [Trace.outcome_bind ended]
      cases graph.target? (some edge) <;> rfl

theorem outcome_branch? {rows : List BranchRow} (payload : node.payload = .condition rows)
    {row : BranchRow} (declared : row ∈ rows) :
    (graph.branch? enter node row).outcome =
      .ok ((graph.target? (graph.edge? node.id (some row.id))).map fun target =>
        .mk row.label row.expression (onNodes enter target).modules) := by
  cases found : graph.edge? node.id (some row.id) with
  | none =>
      simp only [branch?, found, Trace.warn_eq_tell]
      rfl
  | some edge =>
      have ended := outcome_behind completed (row_mem_followed payload declared found)
      simp only [branch?, found]
      rw [Trace.outcome_bind ended]
      cases graph.target? (some edge) <;> rfl

theorem outcome_expand :
    (graph.expand enter node).outcome =
      .ok (graph.unroll (fun target => (onNodes enter target).modules) node) := by
  unfold expand unroll
  cases payload : node.payload with
  | input properties =>
      exact outcome_successors completed (by simp [Node.kind, payload, Payload.kind])
  | action name bindings =>
      have ended := outcome_successors completed (by simp [Node.kind, payload, Payload.kind])
      simp only [Trace.note_eq_tell, Trace.warnIf_eq_tell]
      rw [Trace.outcome_tell_then, Trace.outcome_tell_then, Trace.outcome_bind ended, scriptModule,
        Keyed.ofList_eq_ofLastGiven]
      rfl
  | condition rows =>
      have branches := Trace.outcome_collect fun row declared =>
        outcome_branch? completed payload declared
      simp only [Trace.note_eq_tell]
      rw [Trace.outcome_tell_then, Trace.outcome_bind (outcome_defaults completed payload),
        Trace.outcome_bind branches]
      rfl

theorem modules_expand :
    (graph.expand enter node).modules =
      graph.unroll (fun target => (onNodes enter target).modules) node := by
  rw [Trace.modules, outcome_expand completed]

end

end

end Graph

end Flowchart
