import Flowchart.Proofs.FirstCycle
import Flowchart.Proofs.Likeness
import Flowchart.Proofs.Reachability
import Mathlib.Data.Finset.Card
import Mathlib.Logic.Function.Iterate

/-!
Why a walk ends. One turn of a walk looks at a node and leaves open what the walks from further
nodes give; whatever it asks of these, it asks with a path that is longer by the node's id. A path
that is asked for has no id twice and only ids of the graph, so it has no more entries than the
graph has ids, and turns nested that deep and once more make the walk itself.
-/

namespace Flowchart.Graph

/-- One turn of a walk, where `further` stands for the walks that it asks for. -/
def turn (graph : Graph) (further : List Text → graph.Member → Trace (List Module))
    (path : List Text) (node : graph.Member) : Trace (List Module) :=
  if node.val.id ∉ path then graph.expand (further (path ++ [node.val.id])) node
  else Trace.cycle (path.dropWhile (· ≠ node.val.id) ++ [node.val.id])

/-- Where a walk stands: the ids above it and the node that it comes to. -/
abbrev Call (graph : Graph) := List Text × graph.Member

/-- Whether the turn at a call asks for another call: what the turn gives can change although
nothing changes but what the other call gives. -/
def Asks (graph : Graph) (call other : graph.Call) : Prop :=
  ∃ first second : List Text → graph.Member → Trace (List Module),
    (∀ path node, (path, node) ≠ other → first path node = second path node) ∧
    graph.turn first call.1 call.2 ≠ graph.turn second call.1 call.2

/-- A call that is made when a graph is compiled, from the one input node on. -/
def Called (graph : Graph) (call : graph.Call) : Prop :=
  ∃ entry : graph.Member, graph.inputs = [entry.val] ∧
    Relation.ReflTransGen graph.Asks ([], entry) call

/-- The different ids of a graph. -/
def ids (graph : Graph) : Finset Text :=
  (graph.nodes.map Node.id).toFinset

/-- A path without repetition, of ids of the graph. -/
structure IsSimple (graph : Graph) (path : List Text) : Prop where
  distinct : path.Nodup
  known : ∀ id ∈ path, id ∈ graph.ids

variable {graph : Graph} {path : List Text} {node : graph.Member}
  {further : List Text → graph.Member → Trace (List Module)}

theorem turn_of_unmet (unmet : node.val.id ∉ path) :
    graph.turn further path node = graph.expand (further (path ++ [node.val.id])) node :=
  if_pos unmet

theorem turn_of_met (met : node.val.id ∈ path) :
    graph.turn further path node =
      Trace.cycle (path.dropWhile (· ≠ node.val.id) ++ [node.val.id]) :=
  if_neg (not_not_intro met)

theorem walk_eq_turn : graph.walk path node = graph.turn graph.walk path node := by
  by_cases met : node.val.id ∈ path
  · rw [walk_of_met met, turn_of_met met]
  · rw [walk_of_unmet met, turn_of_unmet met]

theorem turn_congr {again : List Text → graph.Member → Trace (List Module)}
    (same : node.val.id ∉ path → ∀ target : graph.Member, graph.Follows node target →
      again (path ++ [node.val.id]) target = further (path ++ [node.val.id]) target) :
    graph.turn again path node = graph.turn further path node := by
  by_cases met : node.val.id ∈ path
  · rw [turn_of_met met, turn_of_met met]
  · rw [turn_of_unmet met, turn_of_unmet met]
    apply expand_congr (.refl graph node)
    intro target step
    rw [onNodes_of_follows _ step, onNodes_of_follows _ step]
    exact same met ⟨target, step.mem_nodes⟩ step

/-- A turn asks for the walks from the nodes that follow its node, each under the path with the id
of its node added, and for no others. -/
theorem asks_iff {longer : List Text} {target : graph.Member} :
    graph.Asks (path, node) (longer, target) ↔
      node.val.id ∉ path ∧ longer = path ++ [node.val.id] ∧ graph.Follows node target := by
  constructor
  · rintro ⟨first, second, same, differ⟩
    by_contra notAsked
    apply differ
    apply turn_congr
    intro unmet other step
    apply same
    rintro ⟨⟩
    exact notAsked ⟨unmet, rfl, step⟩
  · rintro ⟨unmet, rfl, step⟩
    -- Two ways to go on that differ at the target only: with no modules, or with a cycle there.
    refine ⟨fun _ _ => Trace.pure [], fun other member =>
      if (other, member) = (path ++ [node.val.id], target) then .cycle [] else Trace.pure [],
      ?_, ?_⟩
    · intro other member differs
      exact (if_neg differs).symm
    · intro same
      rw [turn_of_unmet unmet, turn_of_unmet unmet] at same
      have completed : (graph.expand (fun _ => Trace.pure []) node.val).completes = true := by
        rw [completes_expand_iff]
        intro other stepToo
        rw [onNodes_of_follows _ stepToo]
        rfl
      rw [same, completes_expand_iff] at completed
      have here := completed target step
      rw [onNodes_of_mem _ target, if_pos rfl, completes_cycle] at here
      exact Bool.false_ne_true here

theorem IsSimple.length_le (simple : graph.IsSimple path) : path.length ≤ graph.ids.card := by
  rw [← List.toFinset_card_of_nodup simple.distinct]
  apply Finset.card_le_card
  intro id member
  exact simple.known id (List.mem_toFinset.mp member)

theorem IsSimple.concat (simple : graph.IsSimple path) (unmet : node.val.id ∉ path) :
    graph.IsSimple (path ++ [node.val.id]) where
  distinct := simple.distinct.append (List.nodup_singleton _) (by simpa using unmet)
  known := by
    intro id member
    rcases List.mem_append.mp member with known | isLast
    · exact simple.known id known
    · rw [List.mem_singleton.mp isLast]
      exact List.mem_toFinset.mpr (List.mem_map_of_mem node.property)

theorem isSimple_nil : graph.IsSimple [] :=
  ⟨List.nodup_nil, List.forall_mem_nil _⟩

theorem Called.isSimple {call : graph.Call} (called : graph.Called call) :
    graph.IsSimple call.1 := by
  obtain ⟨entry, -, asked⟩ := called
  induction asked with
  | refl => exact isSimple_nil
  | tail _ step inductionHypothesis =>
      obtain ⟨unmet, longer, -⟩ := asks_iff.mp step
      rw [longer]
      exact inductionHypothesis.concat unmet

/-- Turns that are nested deep enough are the walk, whatever stands in below them. -/
theorem iterate_turn_eq_walk (depth : Nat) (simple : graph.IsSimple path)
    (deep : graph.ids.card < path.length + depth) :
    (graph.turn)^[depth] further path node = graph.walk path node := by
  induction depth generalizing path node with
  | zero => exact absurd simple.length_le (Nat.not_le.mpr deep)
  | succ depth inductionHypothesis =>
      rw [Function.iterate_succ_apply', walk_eq_turn]
      apply turn_congr
      intro unmet target _
      apply inductionHypothesis (simple.concat unmet)
      simp only [List.length_append, List.length_singleton]
      omega

/-- A walk that does not complete ends with a cycle. -/
theorem outcome_walk_cases (path : List Text) (node : graph.Member) :
    (∃ modules, (graph.walk path node).outcome = .ok modules) ∨
      ∃ first between, (graph.walk path node).outcome = .error (first :: between ++ [first]) := by
  cases outcome : (graph.walk path node).outcome with
  | ok modules => exact .inl ⟨modules, rfl⟩
  | error ids =>
      obtain ⟨route, straight, last, closes, rfl, -⟩ := exists_closes_of_error outcome
      obtain ⟨between, cut⟩ := exists_dropWhile_ne closes.again
      exact .inr ⟨last.id, between, by rw [cut]⟩

/-- Every walk that a compilation calls for ends with modules or with a cycle. Its path has no id
twice, only ids of the graph, and so no more entries than there are ids; each walk that it calls for
itself has a path that is longer by one. So its turns are nested no deeper than there are ids that
are not in its path, and once more. -/
theorem called_walk_ends (called : graph.Called (path, node)) :
    path.Nodup ∧
    (∀ id ∈ path, ∃ other ∈ graph.nodes, other.id = id) ∧
    path.length ≤ graph.ids.card ∧
    (∀ longer target, graph.Asks (path, node) (longer, target) →
      longer = path ++ [node.val.id] ∧ graph.Called (longer, target)) ∧
    ((∃ modules, (graph.walk path node).outcome = .ok modules) ∨
      ∃ first between, (graph.walk path node).outcome = .error (first :: between ++ [first])) ∧
    ∀ otherwise, (graph.turn)^[graph.ids.card + 1 - path.length] otherwise path node =
      graph.walk path node := by
  have simple : graph.IsSimple path := called.isSimple
  refine ⟨simple.distinct, ?_, simple.length_le, ?_, outcome_walk_cases path node, ?_⟩
  · intro id member
    simpa [ids] using simple.known id member
  · intro longer target asked
    obtain ⟨entry, single, before⟩ := called
    exact ⟨(asks_iff.mp asked).2.1, entry, single, before.tail asked⟩
  · intro otherwise
    apply iterate_turn_eq_walk _ simple
    have bound := simple.length_le
    omega

theorem tangled_called_walk_ends :
    ∃ (path : List Text) (node : tangled.Member), path = ["start", "check"] ∧
      tangled.Called (path, node) ∧
      path.Nodup ∧
      (∀ id ∈ path, ∃ other ∈ tangled.nodes, other.id = id) ∧
      path.length ≤ tangled.ids.card ∧
      (∀ longer target, tangled.Asks (path, node) (longer, target) →
        longer = path ++ [node.val.id] ∧ tangled.Called (longer, target)) ∧
      ((∃ modules, (tangled.walk path node).outcome = .ok modules) ∨
        ∃ first between, (tangled.walk path node).outcome = .error (first :: between ++ [first])) ∧
      ∀ otherwise, (tangled.turn)^[tangled.ids.card + 1 - path.length] otherwise path node =
        tangled.walk path node := by
  let start : tangled.Member := ⟨tangled.nodes[1], List.getElem_mem _⟩
  let check : tangled.Member := ⟨tangled.nodes[2], List.getElem_mem _⟩
  let send : tangled.Member := ⟨tangled.nodes[3], List.getElem_mem _⟩
  have toCheck : tangled.Asks ([], start) (["start"], check) :=
    asks_iff.mpr ⟨List.not_mem_nil, rfl, by decide +kernel⟩
  have toSend : tangled.Asks (["start"], check) (["start", "check"], send) :=
    asks_iff.mpr ⟨by decide +kernel, rfl, by decide +kernel⟩
  have called : tangled.Called (["start", "check"], send) :=
    ⟨start, by decide +kernel, .tail (.single toCheck) toSend⟩
  exact ⟨_, send, rfl, called, called_walk_ends called⟩

end Flowchart.Graph
