import Flowchart.Proofs.Followed

/-!
Routes through a graph. A route says how each node on the way is left, so two routes differ even if
they come by the same nodes. Routes are ordered as a depth-first walk takes them: the default of a
condition first, then its rows one after the other.
-/

namespace Flowchart

/-- How a node is left: along its one way on, or, if it is a condition, by its default or by a row,
which is told by its place. -/
inductive Choice where
  | next
  | default
  | row (place : Nat)
  deriving DecidableEq, Repr

def Choice.rank : Choice → Nat
  | next => 0
  | default => 1
  | row place => place + 2

/-- The choices at a node, in order. -/
def Node.choices (node : Node) : List Choice :=
  match node.payload with
  | .condition rows => .default :: (List.range rows.length).map .row
  | _ => [.next]

theorem Node.choices_sorted (node : Node) :
    node.choices.Pairwise fun first second => first.rank < second.rank := by
  unfold choices
  split
  · rw [List.pairwise_cons, List.pairwise_map]
    refine ⟨?_, List.pairwise_lt_range.imp fun {first second} less => ?_⟩
    · intro choice isRow
      obtain ⟨place, -, rfl⟩ := List.mem_map.mp isRow
      simp [Choice.rank]
    · simpa [Choice.rank] using less
  · exact List.pairwise_singleton _ _

theorem Node.nodup_choices (node : Node) : node.choices.Nodup :=
  node.choices_sorted.imp fun less same => absurd (congrArg Choice.rank same) (Nat.ne_of_lt less)

/-- The node that a way goes on to. -/
def Way.onward? : Way → Option Node
  | .onward target => some target
  | .lost _ => none

theorem filterMap_range {α β : Type} (list : List α) (pick? : α → Option β) :
    (List.range list.length).filterMap (fun place => list[place]?.bind pick?) =
      list.filterMap pick? := by
  have items : (List.range list.length).map (fun place => list[place]?) = list.map some := by
    apply List.ext_getElem <;> simp
  calc (List.range list.length).filterMap (fun place => list[place]?.bind pick?)
      = ((List.range list.length).map fun place => list[place]?).filterMap (·.bind pick?) := by
        rw [List.filterMap_map]
        rfl
    _ = list.filterMap pick? := by
        rw [items, List.filterMap_map]
        rfl

namespace Graph

abbrev Route := List Choice

/-- Whether a route comes before another one in the order of a depth-first walk. -/
def Route.Earlier : Route → Route → Prop :=
  List.Lex fun first second => first.rank < second.rank

variable (graph : Graph)

/-- The node that a choice leads to. -/
def choose? (node : Node) (choice : Choice) : Option Node :=
  match node.payload, choice with
  | .condition _, .next => none
  | .condition _, .default => graph.target? (graph.edge? node.id (some defaultHandle))
  | .condition rows, .row place =>
      rows[place]?.bind fun row => graph.target? (graph.edge? node.id (some row.id))
  | _, .next => graph.target? (graph.outgoing node.id).head?
  | _, _ => none

/-- The node that a route leads to. -/
def lead? (node : Node) : Route → Option Node
  | [] => some node
  | choice :: route => (graph.choose? node choice).bind fun target => lead? target route

/-- The nodes that a route comes by, from its start to its end. -/
def along? (node : Node) : Route → Option (List Node)
  | [] => some [node]
  | choice :: route =>
      (graph.choose? node choice).bind fun target => (along? target route).map (node :: ·)

/-- The nodes that the followed edges of a node lead to, in the order of its choices. -/
def targets (node : Node) : List Node :=
  (graph.ways node).filterMap Way.onward?

variable {graph} {node target : Node}

theorem onward?_way (edge : Edge) :
    (graph.way node edge).onward? = graph.target? (some edge) := by
  cases found : graph.node? edge.target <;> simp [way, target?, found, Way.onward?]

theorem onward?_rowWay (row : BranchRow) :
    (graph.rowWay node row).onward? = graph.target? (graph.edge? node.id (some row.id)) := by
  cases found : graph.edge? node.id (some row.id) with
  | none => simp [rowWay, found, target?, Way.onward?]
  | some edge => simp [rowWay, found, onward?_way]

theorem filterMap_way (edge? : Option Edge) :
    (edge?.toList.map (graph.way node)).filterMap Way.onward? =
      (graph.target? edge?).toList := by
  cases edge? with
  | none => rfl
  | some edge => cases found : graph.target? (some edge) <;> simp [onward?_way, found]

theorem targets_of_linear (linear : node.kind ≠ .condition) :
    graph.targets node = (graph.target? (graph.outgoing node.id).head?).toList := by
  cases payload : node.payload with
  | input | action => simp only [targets, ways, payload, filterMap_way]
  | condition => simp [Node.kind, payload, Payload.kind] at linear

theorem targets_of_condition {rows : List BranchRow} (payload : node.payload = .condition rows) :
    graph.targets node =
      (graph.target? (graph.edge? node.id (some defaultHandle))).toList ++
        rows.filterMap fun row => graph.target? (graph.edge? node.id (some row.id)) := by
  simp only [targets, ways, payload]
  rw [List.filterMap_append, filterMap_way, List.filterMap_map]
  simp only [Function.comp_def, onward?_rowWay]

theorem targets_eq_choices : graph.targets node = node.choices.filterMap (graph.choose? node) := by
  cases payload : node.payload with
  | input | action =>
      rw [targets_of_linear (by simp [Node.kind, payload, Payload.kind])]
      cases found : graph.target? (graph.outgoing node.id).head? <;>
        simp [Node.choices, choose?, payload, found]
  | condition rows =>
      rw [targets_of_condition payload, ← filterMap_range rows]
      cases found : graph.target? (graph.edge? node.id (some defaultHandle)) <;>
        simp [Node.choices, choose?, payload, found, List.filterMap_map, Function.comp_def]

theorem mem_targets_iff : target ∈ graph.targets node ↔ graph.Follows node target := by
  rw [← onward_mem_ways_iff, targets, List.mem_filterMap]
  constructor
  · rintro ⟨way, taken, goesOn⟩
    cases way with
    | onward other =>
        obtain rfl : other = target := Option.some.inj goesOn
        exact taken
    | lost warning => exact absurd goesOn (Option.some_ne_none target).symm
  · intro taken
    exact ⟨.onward target, taken, rfl⟩

theorem mem_choices_of_choose? {choice : Choice}
    (chosen : graph.choose? node choice = some target) : choice ∈ node.choices := by
  unfold choose? at chosen
  unfold Node.choices
  split at chosen
  case h_3 rows place payload =>
    obtain ⟨row, found, -⟩ := Option.bind_eq_some_iff.mp chosen
    obtain ⟨inside, -⟩ := List.getElem?_eq_some_iff.mp found
    simp [payload, inside]
  all_goals simp_all

theorem follows_iff_exists_choice :
    graph.Follows node target ↔ ∃ choice, graph.choose? node choice = some target := by
  rw [← mem_targets_iff, targets_eq_choices, List.mem_filterMap]
  constructor
  · rintro ⟨choice, -, chosen⟩
    exact ⟨choice, chosen⟩
  · rintro ⟨choice, chosen⟩
    exact ⟨choice, mem_choices_of_choose? chosen, chosen⟩

theorem follows_of_choose? {choice : Choice} (chosen : graph.choose? node choice = some target) :
    graph.Follows node target :=
  follows_iff_exists_choice.mpr ⟨choice, chosen⟩

theorem lead?_cons_iff {choice : Choice} {route : Route} :
    graph.lead? node (choice :: route) = some target ↔
      ∃ next, graph.choose? node choice = some next ∧ graph.lead? next route = some target := by
  rw [lead?, Option.bind_eq_some_iff]

/-- A node is reached exactly if some route leads to it. -/
theorem reaches_iff_exists_route :
    graph.Reaches node target ↔ ∃ route, graph.lead? node route = some target := by
  constructor
  · intro reached
    induction reached using Relation.ReflTransGen.head_induction_on with
    | refl => exact ⟨[], rfl⟩
    | head step _ inductionHypothesis =>
        obtain ⟨choice, chosen⟩ := follows_iff_exists_choice.mp step
        obtain ⟨route, leads⟩ := inductionHypothesis
        exact ⟨choice :: route, lead?_cons_iff.mpr ⟨_, chosen, leads⟩⟩
  · rintro ⟨route, leads⟩
    induction route generalizing node with
    | nil =>
        obtain rfl : node = target := Option.some.inj leads
        exact .refl
    | cons choice route inductionHypothesis =>
        obtain ⟨next, chosen, leads⟩ := lead?_cons_iff.mp leads
        exact .head (follows_of_choose? chosen) (inductionHypothesis leads)

end Graph

end Flowchart
