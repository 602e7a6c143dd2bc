import Flowchart.Proofs.Unfolding

/-!
Listings along an unfolding. A node is listed once for every way that leads to it, so what is
listed at all is what the nodes that are reached contribute.
-/

namespace Flowchart.Graph

variable {α β : Type} {graph : Graph} {own : Node → List α} {lost : Node → Warning → List α}
  {node : Node} {list : List α}

/-- What a node itself adds to a listing. -/
def Lists (graph : Graph) (own : Node → List α) (lost : Node → Warning → List α) (node : Node)
    (item : α) : Prop :=
  item ∈ own node ∨ ∃ warning, .lost warning ∈ graph.ways node ∧ item ∈ lost node warning

theorem mem_listing_iff {below : Node → List α} {item : α} :
    item ∈ graph.listing own lost below node ↔
      graph.Lists own lost node item ∨
        ∃ target, graph.Follows node target ∧ item ∈ below target := by
  simp only [listing, List.mem_append, List.mem_flatMap, Lists]
  constructor
  · rintro (isOwn | ⟨way, taken, listed⟩)
    · exact .inl (.inl isOwn)
    · cases way with
      | onward target => exact .inr ⟨target, onward_mem_ways_iff.mp taken, listed⟩
      | lost warning => exact .inl (.inr ⟨warning, taken, listed⟩)
  · rintro ((isOwn | ⟨warning, taken, listed⟩) | ⟨target, step, listed⟩)
    · exact .inl isOwn
    · exact .inr ⟨.lost warning, taken, listed⟩
    · exact .inr ⟨.onward target, onward_mem_ways_iff.mpr step, listed⟩

/-- Listed is what some reached node adds. -/
theorem Unfolds.mem_iff (unfolded : graph.Unfolds (graph.listing own lost) node list) (item : α) :
    item ∈ list ↔ ∃ reached, graph.Reaches node reached ∧ graph.Lists own lost reached item := by
  induction unfolded with
  | @node node below each inductionHypothesis =>
      rw [mem_listing_iff]
      constructor
      · rintro (here | ⟨target, step, listed⟩)
        · exact ⟨node, .refl, here⟩
        · obtain ⟨reached, path, there⟩ := (inductionHypothesis target step).mp listed
          exact ⟨reached, .head step path, there⟩
      · rintro ⟨reached, path, there⟩
        rcases path.cases_head with rfl | ⟨target, step, path⟩
        · exact .inl there
        · exact .inr ⟨target, step, (inductionHypothesis target step).mpr ⟨reached, path, there⟩⟩

/-- A change of the values under which one rule turns into another. -/
theorem Unfolds.image {rule : (Node → α) → Node → α} {other : (Node → β) → Node → β}
    (change : Node → α → β)
    (commutes : ∀ below node,
      change node (rule below node) = other (fun target => change target (below target)) node)
    {value : α} (unfolded : graph.Unfolds rule node value) :
    graph.Unfolds other node (change node value) := by
  induction unfolded with
  | node each inductionHypothesis =>
      rw [commutes]
      exact .node inductionHypothesis

theorem Unfolds.filterMap (unfolded : graph.Unfolds (graph.listing own lost) node list)
    (pick? : α → Option β) :
    graph.Unfolds
      (graph.listing (fun node => (own node).filterMap pick?) fun node warning =>
        (lost node warning).filterMap pick?) node (list.filterMap pick?) := by
  apply unfolded.image fun _ list => list.filterMap pick?
  intro below node
  simp only [listing, List.filterMap_append, List.filterMap_flatMap]
  congr 2
  funext way
  cases way <;> rfl

theorem Unfolds.filter (unfolded : graph.Unfolds (graph.listing own lost) node list)
    (keep : α → Bool) :
    graph.Unfolds
      (graph.listing (fun node => (own node).filter keep) fun node warning =>
        (lost node warning).filter keep) node (list.filter keep) := by
  simpa only [List.filterMap_eq_filter] using unfolded.filterMap (Option.guard keep)

theorem Unfolds.map (unfolded : graph.Unfolds (graph.listing own lost) node list) (change : α → β) :
    graph.Unfolds
      (graph.listing (fun node => (own node).map change) fun node warning =>
        (lost node warning).map change) node (list.map change) := by
  simpa only [List.filterMap_eq_map] using unfolded.filterMap (some ∘ change)

end Flowchart.Graph
