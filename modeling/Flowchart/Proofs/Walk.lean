import Flowchart.Proofs.Expansion

/-!
When a walk completes. Below a node the path is the only thing that can end it, so a walk completes
exactly if no chain of followed steps meets an id twice or an id of the path.
-/

namespace Flowchart.Graph

variable {graph : Graph} {path : List Text}

theorem walk_of_unmet {node : graph.Member} (unmet : node.val.id ∉ path) :
    graph.walk path node = graph.expand (graph.walk (path ++ [node.val.id])) node := by
  rw [walk, dif_pos unmet]

theorem walk_of_met {node : graph.Member} (met : node.val.id ∈ path) :
    graph.walk path node =
      Trace.cycle (path.dropWhile (· ≠ node.val.id) ++ [node.val.id]) := by
  rw [walk, dif_neg (not_not_intro met)]

theorem completes_cycle {α : Type} (ids : List Text) :
    (Trace.cycle ids : Trace α).completes = false := rfl

/-- Nodes of which no two share an id and none has an id of a path. -/
def IsClear (path : List Text) (nodes : List Node) : Prop :=
  (nodes.map Node.id).Nodup ∧ (nodes.map Node.id).Disjoint path

theorem isClear_cons {node : Node} {nodes : List Node} :
    IsClear path (node :: nodes) ↔ node.id ∉ path ∧ IsClear (path ++ [node.id]) nodes := by
  simp only [IsClear, List.map_cons, List.nodup_cons, List.disjoint_cons_left,
    List.disjoint_append_right, List.disjoint_singleton]
  constructor
  · rintro ⟨⟨fresh, distinct⟩, unmet, apart⟩
    exact ⟨unmet, distinct, apart, fresh⟩
  · rintro ⟨unmet, distinct, apart, fresh⟩
    exact ⟨⟨fresh, distinct⟩, unmet, apart⟩

/-- A walk completes exactly if every chain of followed steps from its node is clear of its path. -/
theorem completes_walk_iff (node : graph.Member) :
    (graph.walk path node).completes = true ↔
      ∀ rest, (node.val :: rest).IsChain graph.Follows → IsClear path (node.val :: rest) := by
  induction path, node using Graph.walk.induct with
  | case1 path node unmet inductionHypothesis =>
      -- The path grows on the way down, so what is clear below is clear of this node as well.
      rw [walk_of_unmet unmet, completes_expand_iff]
      constructor
      · intro completed rest chain
        rw [isClear_cons]
        refine ⟨unmet, ?_⟩
        cases rest with
        | nil => exact ⟨List.nodup_nil, List.disjoint_nil_left _⟩
        | cons next rest =>
            obtain ⟨step, chain⟩ := List.isChain_cons_cons.mp chain
            have below := completed next step
            rw [onNodes_of_mem _ ⟨next, step.mem_nodes⟩] at below
            exact (inductionHypothesis ⟨next, step.mem_nodes⟩).mp below rest chain
      · intro clear target step
        rw [onNodes_of_mem _ ⟨target, step.mem_nodes⟩]
        apply (inductionHypothesis ⟨target, step.mem_nodes⟩).mpr
        intro rest chain
        exact (isClear_cons.mp (clear (target :: rest)
          (List.isChain_cons_cons.mpr ⟨step, chain⟩))).2
  | case2 path node met =>
      rw [walk_of_met (not_not.mp met), completes_cycle]
      constructor
      · intro impossible
        simp at impossible
      · intro clear
        exact absurd (isClear_cons.mp (clear [] (List.isChain_singleton _))).1 met

/-- Whether some id comes twice along the followed steps from a node. -/
def Circles (graph : Graph) (node : Node) : Prop :=
  ∃ rest, (node :: rest).IsChain graph.Follows ∧ ¬((node :: rest).map Node.id).Nodup

/-- The walk from a node with nothing above it. -/
def walkFrom (graph : Graph) : Node → Trace (List Module) :=
  onNodes (graph.walk [])

variable {entry : Node}

theorem walkFrom_of_mem (member : entry ∈ graph.nodes) :
    graph.walkFrom entry = graph.walk [] ⟨entry, member⟩ :=
  onNodes_of_mem (graph.walk []) ⟨entry, member⟩

theorem completes_walkFrom_iff (member : entry ∈ graph.nodes) :
    (graph.walkFrom entry).completes = true ↔ ¬graph.Circles entry := by
  rw [walkFrom_of_mem member, completes_walk_iff]
  simp [Circles, IsClear]

theorem eq_entry_of_reaches {node : Node} (straight : ¬graph.Circles entry)
    (reached : graph.Reaches entry node) (same : node.id = entry.id) : node = entry := by
  obtain ⟨rest, chain, ends⟩ := List.exists_isChain_cons_of_relationReflTransGen reached
  cases rest with
  | nil => exact ends.symm
  | cons next rest =>
      have member : node ∈ next :: rest := by
        rw [← ends, List.getLast_cons (List.cons_ne_nil next rest)]
        exact List.getLast_mem _
      -- The chain comes back to the id that it starts with.
      refine absurd ⟨next :: rest, chain, ?_⟩ straight
      intro distinct
      rw [List.map_cons, List.nodup_cons] at distinct
      exact distinct.1 (same ▸ List.mem_map_of_mem member)

/-- Of the nodes reached from a node that nothing circles, no two share an id. -/
theorem eq_of_reaches {first second : Node} (straight : ¬graph.Circles entry)
    (reached : graph.Reaches entry first) (again : graph.Reaches entry second)
    (same : first.id = second.id) : first = second := by
  -- A node that is stepped to is the one that its id stands for; the entry need not be.
  rcases reached.cases_tail with atEntry | ⟨_, _, step⟩
  · subst atEntry
    exact (eq_entry_of_reaches straight again same.symm).symm
  · rcases again.cases_tail with atEntry | ⟨_, _, otherStep⟩
    · subst atEntry
      exact eq_entry_of_reaches straight reached same
    · exact step.eq_of_id_eq otherStep same

end Flowchart.Graph
