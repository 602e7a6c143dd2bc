import Flowchart.Proofs.Followed

/-!
Deciding what is reached. One node after the other is admitted as a stop on the way between two
nodes; once all nodes of the graph are admitted, no way is left out, since a step leads nowhere
else.
-/

namespace Flowchart.Graph

variable {graph : Graph} {source target : Node}

instance : Decidable (graph.Follows source target) :=
  inferInstanceAs (Decidable (∃ edge ∈ graph.followed source,
    graph.node? edge.target = some target))

/-- Whether a node is another one or is reached from it with stops at the given nodes only. -/
def reachesBy (graph : Graph) : List Node → Node → Node → Bool
  | [], source, target => source = target ∨ graph.Follows source target
  | stop :: stops, source, target =>
      graph.reachesBy stops source target ||
        graph.reachesBy stops source stop && graph.reachesBy stops stop target

theorem reachesBy_cons_iff {stop : Node} {stops : List Node} :
    graph.reachesBy (stop :: stops) source target = true ↔
      graph.reachesBy stops source target = true ∨
        graph.reachesBy stops source stop = true ∧ graph.reachesBy stops stop target = true := by
  rw [reachesBy, Bool.or_eq_true, Bool.and_eq_true]

theorem reachesBy_of_step (stops : List Node)
    (step : source = target ∨ graph.Follows source target) :
    graph.reachesBy stops source target = true := by
  induction stops with
  | nil => exact decide_eq_true step
  | cons stop stops inductionHypothesis => exact reachesBy_cons_iff.mpr (.inl inductionHypothesis)

theorem reachesBy_trans {stop : Node} {stops : List Node} (admitted : stop ∈ stops)
    (before : graph.reachesBy stops source stop = true)
    (after : graph.reachesBy stops stop target = true) :
    graph.reachesBy stops source target = true := by
  induction stops generalizing source target with
  | nil => exact absurd admitted List.not_mem_nil
  | cons other stops inductionHypothesis =>
      rw [reachesBy_cons_iff] at before after ⊢
      rcases List.mem_cons.mp admitted with rfl | admitted
      · -- The way to the stop itself and the way on from it need not stop there once more.
        exact .inr ⟨before.elim id And.left, after.elim id And.right⟩
      · rcases before with before | ⟨toOther, before⟩ <;>
          rcases after with after | ⟨toOtherAfter, after⟩
        · exact .inl (inductionHypothesis admitted before after)
        · exact .inr ⟨inductionHypothesis admitted before toOtherAfter, after⟩
        · exact .inr ⟨toOther, inductionHypothesis admitted before after⟩
        · exact .inr ⟨toOther, after⟩

theorem Reaches.of_reachesBy {stops : List Node}
    (found : graph.reachesBy stops source target = true) : graph.Reaches source target := by
  induction stops generalizing source target with
  | nil =>
      rcases of_decide_eq_true found with rfl | step
      · exact .refl
      · exact .single step
  | cons stop stops inductionHypothesis =>
      rcases reachesBy_cons_iff.mp found with direct | ⟨before, after⟩
      · exact inductionHypothesis direct
      · exact (inductionHypothesis before).trans (inductionHypothesis after)

theorem reaches_iff_reachesBy :
    graph.Reaches source target ↔ graph.reachesBy graph.nodes source target = true := by
  constructor
  · intro reached
    induction reached with
    | refl => exact reachesBy_of_step graph.nodes (.inl rfl)
    | @tail stop target before step inductionHypothesis =>
        -- The stop is a node of the graph unless nothing comes before it.
        rcases before.cases_tail with rfl | ⟨_, _, stepBefore⟩
        · exact reachesBy_of_step graph.nodes (.inr step)
        · exact reachesBy_trans stepBefore.mem_nodes inductionHypothesis
            (reachesBy_of_step graph.nodes (.inr step))
  · exact Reaches.of_reachesBy

instance : Decidable (graph.Reaches source target) :=
  decidable_of_iff _ reaches_iff_reachesBy.symm

/-- Whether an id is that of a node reached from a node. -/
def ReachesId (graph : Graph) (source : Node) (id : Text) : Prop :=
  ∃ node, graph.Reaches source node ∧ node.id = id

theorem reachesId_iff {id : Text} :
    graph.ReachesId source id ↔
      ∃ node ∈ source :: graph.nodes, graph.Reaches source node ∧ node.id = id := by
  constructor
  · rintro ⟨node, reached, named⟩
    refine ⟨node, ?_, reached, named⟩
    rcases reached.cases_tail with rfl | ⟨_, _, step⟩
    · exact List.mem_cons_self
    · exact List.mem_cons_of_mem _ step.mem_nodes
  · rintro ⟨node, -, reached, named⟩
    exact ⟨node, reached, named⟩

instance {id : Text} : Decidable (graph.ReachesId source id) :=
  decidable_of_iff _ reachesId_iff.symm

end Flowchart.Graph
