import Flowchart.Proofs.Outcome

/-!
The unfolding of a graph. A rule tells what a node comes to from what the nodes that follow it come
to; its value at a node is what it comes to over all that follows. There is no path and no bound in
it, and where a rule has a value, it has no other one. A walk that completes gives the value of
`unroll` as its modules and the value of `record` as its log, whatever its path.
-/

namespace Flowchart.Graph

variable {α : Type} {graph : Graph}

/-- What a rule comes to at a node. -/
inductive Unfolds (graph : Graph) (rule : (Node → α) → Node → α) : Node → α → Prop where
  | node {node : Node} {below : Node → α}
      (each : ∀ target, graph.Follows node target → Unfolds graph rule target (below target)) :
      Unfolds graph rule node (rule below node)

/-- A rule that looks only at the nodes that follow. -/
def IsLocal (graph : Graph) (rule : (Node → α) → Node → α) : Prop :=
  ∀ node first second, (∀ target, graph.Follows node target → first target = second target) →
    rule first node = rule second node

theorem Unfolds.unique {rule : (Node → α) → Node → α} (isLocal : graph.IsLocal rule) {node : Node}
    {first second : α} (unfolded : graph.Unfolds rule node first)
    (again : graph.Unfolds rule node second) : first = second := by
  induction unfolded generalizing second with
  | @node node below each inductionHypothesis =>
      cases again with
      | @node _ other otherEach =>
          apply isLocal
          intro target step
          exact inductionHypothesis target step (otherEach target step)

/-- Where one rule has a value, every rule has one. -/
theorem Unfolds.exists_value {β : Type} [Inhabited β] {rule : (Node → α) → Node → α} {node : Node}
    {value : α} (unfolded : graph.Unfolds rule node value) (other : (Node → β) → Node → β) :
    ∃ value, graph.Unfolds other node value := by
  induction unfolded with
  | @node node _ _ inductionHypothesis =>
      have values : ∀ target, ∃ value, graph.Follows node target →
          graph.Unfolds other target value := by
        intro target
        by_cases step : graph.Follows node target
        · obtain ⟨value, unfolded⟩ := inductionHypothesis target step
          exact ⟨value, fun _ => unfolded⟩
        · exact ⟨default, fun impossible => absurd impossible step⟩
      choose below each using values
      exact ⟨other below node, .node each⟩

theorem isLocal_listing {β : Type} (own : Node → List β) (lost : Node → Warning → List β) :
    graph.IsLocal (graph.listing own lost) := by
  intro node first second same
  unfold listing
  congr 1
  apply List.flatMap_congr
  intro way member
  cases way with
  | onward target => exact same target (onward_mem_ways_iff.mp member)
  | lost warning => rfl

theorem isLocal_unroll : graph.IsLocal graph.unroll := by
  intro node first second same
  have elim_congr : ∀ target?, (∀ target, target? = some target → graph.Follows node target) →
      target?.elim [] first = target?.elim [] second := by
    intro target? step
    cases target? with
    | none => rfl
    | some target => exact same target (step target rfl)
  unfold unroll
  cases payload : node.payload with
  | input | action =>
      have linear : node.kind ≠ .condition := by simp [Node.kind, payload, Payload.kind]
      simp only [elim_congr _ fun target => (follows_iff_of_linear linear).mpr]
  | condition rows =>
      simp only [elim_congr _ fun target isDefault =>
        (follows_iff_of_condition payload).mpr (.inl isDefault)]
      congr 2
      apply List.filterMap_congr
      intro row declared
      apply Option.map_congr
      intro target found
      rw [same target ((follows_iff_of_condition payload).mpr (.inr ⟨row, declared, found⟩))]

/-- A view of completed walks that a rule tells step by step is the rule's value. -/
theorem unfolds_walk {rule : (Node → α) → Node → α} {view : Trace (List Module) → α}
    (agrees : ∀ enter node,
      (∀ target, graph.Follows node target → (onNodes enter target).completes = true) →
        view (graph.expand enter node) = rule (fun target => view (onNodes enter target)) node)
    {path : List Text} {node : graph.Member}
    (completed : (graph.walk path node).completes = true) :
    graph.Unfolds rule node (view (graph.walk path node)) := by
  induction path, node using Graph.walk.induct with
  | case1 path node unmet inductionHypothesis =>
      -- Below, the walk has a longer path; the rule is the same.
      rw [walk_of_unmet unmet] at completed ⊢
      rw [completes_expand_iff] at completed
      rw [agrees _ _ completed]
      apply Unfolds.node
      intro target step
      have below := completed target step
      rw [onNodes_of_mem _ ⟨target, step.mem_nodes⟩] at below ⊢
      exact inductionHypothesis ⟨target, step.mem_nodes⟩ below
  | case2 path node met =>
      rw [walk_of_met (not_not.mp met), completes_cycle] at completed
      exact absurd completed Bool.false_ne_true

variable {entry : Node} (member : entry ∈ graph.nodes)
  (completed : (graph.walkFrom entry).completes = true)
include member completed

theorem unfolds_modules : graph.Unfolds graph.unroll entry (graph.walkFrom entry).modules := by
  rw [walkFrom_of_mem member] at completed ⊢
  exact unfolds_walk (fun _ _ each => modules_expand each) completed

theorem unfolds_log : graph.Unfolds graph.record entry (graph.walkFrom entry).log := by
  rw [walkFrom_of_mem member] at completed ⊢
  exact unfolds_walk (fun _ _ each => log_expand each) completed

omit member completed

/-- The modules of a compiled document are what the input node unfolds to, and it unfolds to
nothing else. -/
theorem compile_modules_iff_unfolds {options : Options} {summary description : Text}
    (succeeded : (graph.compile options summary description).succeeded = true) :
    ∃ entry document, graph.inputs = [entry] ∧
      (graph.compile options summary description).document? = some document ∧
      ∀ modules, graph.Unfolds graph.unroll entry modules ↔ modules = document.modules := by
  obtain ⟨entry, single, completed⟩ := exists_entry_of_succeeded succeeded
  have unfolded := unfolds_modules (mem_nodes_of_inputs single) completed
  refine ⟨entry, _, single, document?_of_input options summary description single completed, ?_⟩
  intro modules
  constructor
  · intro other
    exact other.unique isLocal_unroll unfolded
  · rintro rfl
    exact unfolded

/-- An edge of a graph that is put down by hand. -/
def edge (source target : Text) (handle : Option Text) : Edge :=
  ⟨none, source, target, handle, none⟩

/-- A condition whose default and first row share an action, whose other rows lead nowhere or have
a blank label, and whose actions bind a parameter twice or have no name. -/
def forked : Graph where
  nodes :=
    [⟨"start", none, .empty, .input [⟨"", "amount", .number, true⟩, ⟨"", " ", .string, true⟩]⟩,
     ⟨"check", none, .empty, .condition
       [⟨"large", "Large", "amount > 9"⟩, ⟨"open", "Open", "true"⟩, ⟨"lost", "Lost", "false"⟩,
        ⟨"blank", " ", "amount = 0"⟩]⟩,
     ⟨"send", none, .empty, .action (some "mail/send")
       [⟨"", "to", "first"⟩, ⟨"", "body", "text"⟩, ⟨"", "to", "last"⟩, ⟨"", "", "unused"⟩]⟩,
     ⟨"done", none, .empty, .action none []⟩]
  edges :=
    [edge "start" "check" none, edge "start" "done" none,
     edge "check" "send" (some "default"), edge "check" "done" (some "default"),
     edge "check" "send" (some "large"), edge "check" "nowhere" (some "lost"),
     edge "check" "done" (some "blank"), edge "send" "done" none]

theorem forked_modules_iff_unfolds :
    (forked.compile .default "" "").succeeded = true ∧
      ∃ entry document, forked.inputs = [entry] ∧
        (forked.compile .default "" "").document? = some document ∧
        ∀ modules, forked.Unfolds forked.unroll entry modules ↔ modules = document.modules := by
  have succeeded : (forked.compile .default "" "").succeeded = true := by decide +kernel
  exact ⟨succeeded, compile_modules_iff_unfolds succeeded⟩

end Flowchart.Graph
