import Flowchart.Proofs.Listing

/-!
The anomalies of a graph and the warnings about them. An anomaly belongs to a node and is told from
the graph alone. A walk meets it once for every way that leads to its node; of the warnings only the
first is kept, since the key of a warning tells any two anomalies of reached nodes apart.
-/

namespace Flowchart

inductive Anomaly where
  | incompleteAction
  | ambiguousSuccessor (edge : Edge)
  | unresolvedTarget (edge : Edge)
  | missingBranchEdge (branch : Text)
  deriving DecidableEq

namespace Anomaly

def kind : Anomaly → WarningKind
  | incompleteAction => .incompleteAction
  | ambiguousSuccessor _ => .ambiguousSuccessor
  | unresolvedTarget _ => .unresolvedTarget
  | missingBranchEdge _ => .missingBranchEdge

def edge? : Anomaly → Option Edge
  | ambiguousSuccessor edge => some edge
  | unresolvedTarget edge => some edge
  | _ => none

def branch? : Anomaly → Option Text
  | missingBranchEdge branch => some branch
  | _ => none

end Anomaly

/-- An anomaly together with the node that has it. -/
structure Finding where
  node : Node
  anomaly : Anomaly
  deriving DecidableEq

namespace Finding

def key (finding : Finding) : Warning.Key where
  kind := finding.anomaly.kind
  node := finding.node.id
  branch := finding.anomaly.branch?
  edgeId := finding.anomaly.edge?.bind Edge.id
  handle := finding.anomaly.edge?.bind Edge.sourceHandle
  target := finding.anomaly.edge?.map Edge.target

/-- What is reported of a finding: its kind, the id of its node and that of its edge. -/
def report (finding : Finding) : WarningKind × Text × Option Text :=
  (finding.anomaly.kind, finding.node.id, finding.anomaly.edge?.bind Edge.id)

end Finding

namespace Warning

def anomaly : Warning → Anomaly
  | unresolvedTarget _ edge => .unresolvedTarget edge
  | missingBranchEdge _ row => .missingBranchEdge row.id
  | ambiguousSuccessor _ edge _ => .ambiguousSuccessor edge
  | incompleteAction _ => .incompleteAction

/-- What is reported of a warning beside its message. -/
def report (warning : Warning) : WarningKind × Text × Option Text :=
  (warning.kind, warning.node, warning.edgeId?)

def Key.report (key : Key) : WarningKind × Text × Option Text :=
  (key.kind, key.node, key.edgeId)

theorem key_eq {warning : Warning} {node : Node} (named : warning.node = node.id) :
    warning.key = Finding.key ⟨node, warning.anomaly⟩ := by
  cases warning <;> simp_all [key, Finding.key, anomaly, kind, Warning.node, branch?, edgeId?, edge?,
    Anomaly.kind, Anomaly.branch?, Anomaly.edge?]

/-- The keys of the warnings that are kept are the new keys, each where it first comes. -/
theorem map_key_distinct (seen : List Key) (warnings : List Warning) :
    (distinct seen warnings).map key =
      ((warnings.map key).filter (· ∉ seen)).eraseDups := by
  induction warnings generalizing seen with
  | nil => rfl
  | cons warning rest inductionHypothesis =>
      rw [distinct, List.map_cons]
      split
      · next known => rw [inductionHypothesis, List.filter_cons_of_neg (by simpa using known)]
      · next fresh =>
        rw [List.filter_cons_of_pos (by simpa using fresh), List.eraseDups_cons, List.map_cons,
          inductionHypothesis, List.filter_filter]
        congr 3
        funext other
        by_cases same : other = warning.key <;> simp [same]

end Warning

namespace Graph

/-- Whether a node has an anomaly. -/
def HasAnomaly (graph : Graph) (node : Node) : Anomaly → Prop
  | .incompleteAction =>
      ∃ name bindings, node.payload = .action name bindings ∧ (name = none ∨ name = some "")
  | .ambiguousSuccessor edge =>
      node.kind ≠ .condition ∧ ∃ second others, graph.outgoing node.id = edge :: second :: others
  | .unresolvedTarget edge => edge ∈ graph.followed node ∧ graph.node? edge.target = none
  | .missingBranchEdge branch =>
      ∃ rows, node.payload = .condition rows ∧ branch ∈ rows.map BranchRow.id ∧
        graph.edge? node.id (some branch) = none

/-- The warnings of a walk, each with the node that it is about. -/
def sightings (graph : Graph) : (Node → List (Node × Warning)) → Node → List (Node × Warning) :=
  graph.listing (fun node => (graph.ownWarnings node).map (node, ·)) fun node warning =>
    [(node, warning)]

/-- The findings along a walk, by those of the nodes that follow a node. -/
def findings (graph : Graph) : (Node → List Finding) → Node → List Finding :=
  graph.listing (fun node => (graph.ownWarnings node).map fun warning => ⟨node, warning.anomaly⟩)
    fun node warning => [⟨node, warning.anomaly⟩]

variable {graph : Graph} {node : Node}

def Warns (graph : Graph) (node : Node) (warning : Warning) : Prop :=
  warning ∈ graph.ownWarnings node ∨ .lost warning ∈ graph.ways node

theorem mem_ambiguities_iff {warning : Warning} :
    warning ∈ graph.ambiguities node ↔
      ∃ edge second others, graph.outgoing node.id = edge :: second :: others ∧
        warning = .ambiguousSuccessor node.id edge (others.length + 2) := by
  unfold ambiguities
  split
  · next edge second others edges => simp [edges]
  · next few =>
    constructor
    · intro impossible
      simp at impossible
    · rintro ⟨edge, second, others, edges, -⟩
      exact absurd edges (few edge second others)

theorem mem_ownWarnings_iff {warning : Warning} :
    warning ∈ graph.ownWarnings node ↔
      (∃ name bindings, node.payload = .action name bindings ∧ name.getD "" = "" ∧
        warning = .incompleteAction node.id) ∨
      (node.kind ≠ .condition ∧ warning ∈ graph.ambiguities node) := by
  unfold ownWarnings
  cases payload : node.payload with
  | input => simp [Node.kind, payload, Payload.kind]
  | action name bindings =>
      by_cases unnamed : name.getD "" = "" <;>
        simp [Node.kind, payload, Payload.kind, unnamed]
  | condition => simp [Node.kind, payload, Payload.kind]

theorem getD_eq_empty_iff {name : Option Text} :
    name.getD "" = "" ↔ name = none ∨ name = some "" := by
  cases name <;> simp

theorem Warns.node_eq {warning : Warning} (warned : graph.Warns node warning) :
    warning.node = node.id := by
  rcases warned with isOwn | isLost
  · rcases mem_ownWarnings_iff.mp isOwn with ⟨_, _, _, _, rfl⟩ | ⟨-, ambiguous⟩
    · rfl
    · obtain ⟨_, _, _, _, rfl⟩ := mem_ambiguities_iff.mp ambiguous
      rfl
  · rcases lost_mem_ways_iff.mp isLost with ⟨_, _, _, rfl⟩ | ⟨_, _, _, _, _, rfl⟩
    · rfl
    · rfl

theorem Warns.hasAnomaly {warning : Warning} (warned : graph.Warns node warning) :
    graph.HasAnomaly node warning.anomaly := by
  rcases warned with isOwn | isLost
  · rcases mem_ownWarnings_iff.mp isOwn with
      ⟨name, bindings, payload, unnamed, rfl⟩ | ⟨linear, ambiguous⟩
    · exact ⟨name, bindings, payload, getD_eq_empty_iff.mp unnamed⟩
    · obtain ⟨edge, second, others, edges, rfl⟩ := mem_ambiguities_iff.mp ambiguous
      exact ⟨linear, second, others, edges⟩
  · rcases lost_mem_ways_iff.mp isLost with
      ⟨edge, isFollowed, missing, rfl⟩ | ⟨rows, payload, row, declared, missing, rfl⟩
    · exact ⟨isFollowed, missing⟩
    · exact ⟨rows, payload, List.mem_map_of_mem declared, missing⟩

theorem HasAnomaly.exists_warns {anomaly : Anomaly} (present : graph.HasAnomaly node anomaly) :
    ∃ warning, graph.Warns node warning ∧ warning.anomaly = anomaly := by
  cases anomaly with
  | incompleteAction =>
      obtain ⟨name, bindings, payload, unnamed⟩ := present
      refine ⟨.incompleteAction node.id, .inl (mem_ownWarnings_iff.mpr (.inl ?_)), rfl⟩
      exact ⟨name, bindings, payload, getD_eq_empty_iff.mpr unnamed, rfl⟩
  | ambiguousSuccessor edge =>
      obtain ⟨linear, second, others, edges⟩ := present
      refine ⟨.ambiguousSuccessor node.id edge (others.length + 2),
        .inl (mem_ownWarnings_iff.mpr (.inr ⟨linear, ?_⟩)), rfl⟩
      exact mem_ambiguities_iff.mpr ⟨edge, second, others, edges, rfl⟩
  | unresolvedTarget edge =>
      obtain ⟨isFollowed, missing⟩ := present
      refine ⟨.unresolvedTarget node.id edge, .inr (lost_mem_ways_iff.mpr (.inl ?_)), rfl⟩
      exact ⟨edge, isFollowed, missing, rfl⟩
  | missingBranchEdge branch =>
      obtain ⟨rows, payload, declared, missing⟩ := present
      obtain ⟨row, isRow, rfl⟩ := List.mem_map.mp declared
      refine ⟨.missingBranchEdge node.id row, .inr (lost_mem_ways_iff.mpr (.inr ?_)), rfl⟩
      exact ⟨rows, payload, row, isRow, missing, rfl⟩

theorem edge?_of_followed {rows : List BranchRow} (payload : node.payload = .condition rows)
    {edge : Edge} (isFollowed : edge ∈ graph.followed node) :
    graph.edge? node.id edge.sourceHandle = some edge := by
  simp only [followed, payload, List.mem_append, Option.mem_toList, List.mem_filterMap] at isFollowed
  rcases isFollowed with found | ⟨row, -, found⟩
  · rwa [(mem_of_edge? found).2.2]
  · rwa [(mem_of_edge? found).2.2]

theorem eq_of_followed {first second : Edge} (isFollowed : first ∈ graph.followed node)
    (again : second ∈ graph.followed node) (same : first.sourceHandle = second.sourceHandle) :
    first = second := by
  cases payload : node.payload with
  | input | action =>
      simp only [followed, payload, Option.mem_toList] at isFollowed again
      exact Option.some.inj (isFollowed.symm.trans again)
  | condition rows =>
      have found := edge?_of_followed payload isFollowed
      rw [same, edge?_of_followed payload again] at found
      exact (Option.some.inj found).symm

/-- The key of a finding tells the anomalies of a node apart. -/
theorem anomaly_eq_of_key_eq {first second : Anomaly} (present : graph.HasAnomaly node first)
    (again : graph.HasAnomaly node second)
    (same : Finding.key ⟨node, first⟩ = Finding.key ⟨node, second⟩) : first = second := by
  simp only [Finding.key, Warning.Key.mk.injEq] at same
  obtain ⟨kind, -, branch, -, handle, -⟩ := same
  -- Anomalies of two kinds have two keys; within a kind the edge or the branch decides.
  cases first <;> cases second <;> simp only [Anomaly.kind, reduceCtorEq] at kind
  case incompleteAction.incompleteAction => rfl
  case ambiguousSuccessor.ambiguousSuccessor edge other =>
    obtain ⟨-, _, _, edges⟩ := present
    obtain ⟨-, _, _, otherEdges⟩ := again
    rw [edges] at otherEdges
    rw [(List.cons.inj otherEdges).1]
  case unresolvedTarget.unresolvedTarget edge other =>
    rw [eq_of_followed present.1 again.1 (by simpa [Anomaly.edge?] using handle)]
  case missingBranchEdge.missingBranchEdge edge other =>
    simpa [Anomaly.branch?] using branch

section

variable {entry : Node} {found : List Finding}

theorem mem_findings_iff (unfolded : graph.Unfolds graph.findings entry found)
    (finding : Finding) :
    finding ∈ found ↔
      graph.Reaches entry finding.node ∧ graph.HasAnomaly finding.node finding.anomaly := by
  rw [unfolded.mem_iff]
  constructor
  · rintro ⟨node, reached, listed⟩
    obtain ⟨warning, warned, rfl⟩ :
        ∃ warning, graph.Warns node warning ∧ Finding.mk node warning.anomaly = finding := by
      simpa [Lists, Warns, or_and_right, exists_or, eq_comm] using listed
    exact ⟨reached, warned.hasAnomaly⟩
  · rintro ⟨reached, present⟩
    obtain ⟨warning, isOwn | isLost, about⟩ := present.exists_warns
    · exact ⟨finding.node, reached, .inl (List.mem_map.mpr ⟨warning, isOwn, by rw [about]⟩)⟩
    · exact ⟨finding.node, reached, .inr ⟨warning, isLost, by simp [about]⟩⟩

theorem warns_of_mem_sightings {seen : List (Node × Warning)}
    (unfolded : graph.Unfolds graph.sightings entry seen) {sighting : Node × Warning}
    (member : sighting ∈ seen) : graph.Warns sighting.1 sighting.2 := by
  obtain ⟨node, -, listed⟩ := (unfolded.mem_iff sighting).mp member
  rcases listed with isOwn | ⟨warning, isLost, here⟩
  · obtain ⟨warning, own, rfl⟩ := List.mem_map.mp isOwn
    exact .inl own
  · obtain rfl := List.mem_singleton.mp here
    exact .inr isLost

theorem eq_of_key_eq (straight : ¬graph.Circles entry)
    (unfolded : graph.Unfolds graph.findings entry found) {first second : Finding}
    (isFound : first ∈ found) (again : second ∈ found) (same : first.key = second.key) :
    first = second := by
  obtain ⟨reached, present⟩ := (mem_findings_iff unfolded first).mp isFound
  obtain ⟨reachedToo, presentToo⟩ := (mem_findings_iff unfolded second).mp again
  obtain ⟨node, anomaly⟩ := first
  obtain ⟨other, otherAnomaly⟩ := second
  obtain rfl : node = other :=
    eq_of_reaches straight reached reachedToo (congrArg Warning.Key.node same)
  exact congrArg (Finding.mk node) (anomaly_eq_of_key_eq present presentToo same)

variable (member : entry ∈ graph.nodes) (completed : (graph.walkFrom entry).completes = true)
include member completed

theorem unfolds_warnings :
    graph.Unfolds (graph.listing graph.ownWarnings fun _ warning => [warning]) entry
      ((graph.walkFrom entry).log.filterMap Note.warning?) := by
  have picked := (unfolds_log member completed).filterMap Note.warning?
  have opened : (fun node => (graph.opening node).filterMap Note.warning?) =
      graph.ownWarnings := by
    funext node
    have kept : Note.warning? ∘ Note.warned = some := rfl
    rw [opening, List.filterMap_append, List.filterMap_map, kept, List.filterMap_some]
    cases node.isInput <;> rfl
  rw [opened] at picked
  exact picked

theorem exists_findings :
    ∃ found, graph.Unfolds graph.findings entry found ∧
      ((graph.walkFrom entry).log.filterMap Note.warning?).map Warning.key =
        found.map Finding.key := by
  have warned := unfolds_warnings member completed
  -- The log forgets which node a warning is about, so both lists are taken from the sightings.
  obtain ⟨seen, sighted⟩ := warned.exists_value graph.sightings
  have warnings := sighted.map Prod.snd
  have findings := sighted.map fun sighting => Finding.mk sighting.1 sighting.2.anomaly
  simp only [List.map_map, Function.comp_def, List.map_id', List.map_singleton] at warnings findings
  refine ⟨_, findings, ?_⟩
  rw [warned.unique (isLocal_listing _ _) warnings, List.map_map, List.map_map]
  apply List.map_congr_left
  intro sighting isSeen
  exact Warning.key_eq (warns_of_mem_sightings sighted isSeen).node_eq

/-- What is reported is every finding once, where the walk first meets it. -/
theorem exists_findings_of_completes :
    ∃ found, graph.Unfolds graph.findings entry found ∧
      (graph.walkFrom entry).warnings.map Warning.report =
        found.eraseDups.map Finding.report := by
  obtain ⟨found, unfolded, keys⟩ := exists_findings member completed
  have straight := (completes_walkFrom_iff member).mp completed
  have kept : (graph.walkFrom entry).warnings.map Warning.key = found.eraseDups.map Finding.key := by
    calc (graph.walkFrom entry).warnings.map Warning.key
        = (((graph.walkFrom entry).log.filterMap Note.warning?).map Warning.key).eraseDups := by
          rw [Trace.warnings_eq, Warning.map_key_distinct]
          simp
      _ = (found.map Finding.key).eraseDups := by rw [keys]
      _ = found.eraseDups.map Finding.key := eraseDups_map fun first isFound second again =>
          eq_of_key_eq straight unfolded isFound again
  have reported := congrArg (List.map Warning.Key.report) kept
  rw [List.map_map, List.map_map] at reported
  exact ⟨found, unfolded, reported⟩

omit member completed

/-- The warnings of a compiled graph are the anomalies of the nodes that are reached, each told
once and in the order in which the walk first meets them. -/
theorem compile_warnings_exact {options : Options} {summary description : Text}
    (succeeded : (graph.compile options summary description).succeeded = true) :
    ∃ entry anomalies, graph.inputs = [entry] ∧
      anomalies.Nodup ∧
      (∀ finding, finding ∈ anomalies ↔
        graph.Reaches entry finding.node ∧ graph.HasAnomaly finding.node finding.anomaly) ∧
      (graph.compile options summary description).warnings.map Warning.report =
        anomalies.map Finding.report ∧
      ∃ found, graph.Unfolds graph.findings entry found ∧ anomalies = found.eraseDups := by
  obtain ⟨entry, single, completed⟩ := exists_entry_of_succeeded succeeded
  obtain ⟨found, unfolded, reported⟩ :=
    exists_findings_of_completes (mem_nodes_of_inputs single) completed
  refine ⟨entry, found.eraseDups, single, nodup_eraseDups found, ?_, ?_, found, unfolded, rfl⟩
  · intro finding
    rw [List.mem_eraseDups]
    exact mem_findings_iff unfolded finding
  · rw [compile_of_input options summary description single]
    exact reported

theorem forked_warnings_exact :
    (forked.compile .default "" "").succeeded = true ∧
      ∃ entry anomalies, forked.inputs = [entry] ∧
        anomalies.Nodup ∧
        (∀ finding, finding ∈ anomalies ↔
          forked.Reaches entry finding.node ∧ forked.HasAnomaly finding.node finding.anomaly) ∧
        (forked.compile .default "" "").warnings.map Warning.report =
          anomalies.map Finding.report ∧
        ∃ found, forked.Unfolds forked.findings entry found ∧ anomalies = found.eraseDups := by
  have succeeded : (forked.compile .default "" "").succeeded = true := by decide +kernel
  exact ⟨succeeded, compile_warnings_exact succeeded⟩

end

end Graph

end Flowchart
