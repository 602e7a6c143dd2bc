import Flowchart.Compile.Warning
import Mathlib.Data.List.Chain
import Mathlib.Logic.Relation

/-!
The followed part of a graph. A node other than a condition is left by its first edge, a condition
by the first edge of each of its handles. `Follows` and `Reaches` say this without a walk; `ways`
lists the same steps in the order in which a walk takes them, together with those that lead nowhere.
-/

namespace Flowchart

/-- A way out of a node: on to another one, or nowhere with a warning. -/
inductive Way where
  | onward (target : Node)
  | lost (warning : Warning)
  deriving DecidableEq

namespace Graph

variable (graph : Graph)

/-- The edges that a node is left by. -/
def followed (node : Node) : List Edge :=
  match node.payload with
  | .condition rows =>
      (graph.edge? node.id (some defaultHandle)).toList ++
        rows.filterMap fun row => graph.edge? node.id (some row.id)
  | _ => (graph.outgoing node.id).head?.toList

/-- The node that an edge leads to, if there are both. -/
def target? (edge? : Option Edge) : Option Node :=
  edge?.bind fun edge => graph.node? edge.target

/-- One step from a node to another along a followed edge. -/
def Follows (source target : Node) : Prop :=
  ∃ edge ∈ graph.followed source, graph.node? edge.target = some target

def Reaches : Node → Node → Prop :=
  Relation.ReflTransGen graph.Follows

def way (node : Node) (edge : Edge) : Way :=
  match graph.node? edge.target with
  | some target => .onward target
  | none => .lost (.unresolvedTarget node.id edge)

def rowWay (node : Node) (row : BranchRow) : Way :=
  match graph.edge? node.id (some row.id) with
  | some edge => graph.way node edge
  | none => .lost (.missingBranchEdge node.id row)

def ways (node : Node) : List Way :=
  match node.payload with
  | .condition rows =>
      (graph.edge? node.id (some defaultHandle)).toList.map (graph.way node) ++
        rows.map (graph.rowWay node)
  | _ => (graph.outgoing node.id).head?.toList.map (graph.way node)

variable {graph}

theorem way_eq_onward_iff {node target : Node} {edge : Edge} :
    graph.way node edge = .onward target ↔ graph.node? edge.target = some target := by
  cases found : graph.node? edge.target <;> simp [way, found]

theorem way_eq_lost_iff {node : Node} {edge : Edge} {warning : Warning} :
    graph.way node edge = .lost warning ↔
      graph.node? edge.target = none ∧ .unresolvedTarget node.id edge = warning := by
  cases found : graph.node? edge.target <;> simp [way, found]

theorem rowWay_eq_onward_iff {node target : Node} {row : BranchRow} :
    graph.rowWay node row = .onward target ↔
      ∃ edge, graph.edge? node.id (some row.id) = some edge ∧
        graph.node? edge.target = some target := by
  cases found : graph.edge? node.id (some row.id) <;> simp [rowWay, found, way_eq_onward_iff]

theorem rowWay_eq_lost_iff {node : Node} {row : BranchRow} {warning : Warning} :
    graph.rowWay node row = .lost warning ↔
      (∃ edge, graph.edge? node.id (some row.id) = some edge ∧
        graph.node? edge.target = none ∧ .unresolvedTarget node.id edge = warning) ∨
      (graph.edge? node.id (some row.id) = none ∧ .missingBranchEdge node.id row = warning) := by
  cases found : graph.edge? node.id (some row.id) <;> simp [rowWay, found, way_eq_lost_iff]

theorem followed_of_linear {node : Node} (linear : node.kind ≠ .condition) :
    graph.followed node = (graph.outgoing node.id).head?.toList := by
  cases payload : node.payload <;> simp_all [followed, Node.kind, Payload.kind]

theorem first_mem_followed {node : Node} (linear : node.kind ≠ .condition) {edge : Edge}
    (first : (graph.outgoing node.id).head? = some edge) : edge ∈ graph.followed node := by
  rw [followed_of_linear linear, first]
  exact List.mem_singleton_self edge

theorem default_mem_followed {node : Node} {rows : List BranchRow}
    (payload : node.payload = .condition rows) {edge : Edge}
    (found : graph.edge? node.id (some defaultHandle) = some edge) : edge ∈ graph.followed node := by
  simp only [followed, payload, List.mem_append, Option.mem_toList]
  exact .inl found

theorem row_mem_followed {node : Node} {rows : List BranchRow}
    (payload : node.payload = .condition rows) {row : BranchRow} (declared : row ∈ rows)
    {edge : Edge} (found : graph.edge? node.id (some row.id) = some edge) :
    edge ∈ graph.followed node := by
  simp only [followed, payload, List.mem_append, List.mem_filterMap]
  exact .inr ⟨row, declared, found⟩

theorem mem_edges_of_followed {node : Node} {edge : Edge}
    (isFollowed : edge ∈ graph.followed node) : edge ∈ graph.edges := by
  cases payload : node.payload with
  | input | action =>
      simp only [followed, payload, Option.mem_toList] at isFollowed
      exact (List.mem_filter.mp (List.mem_of_head? isFollowed)).1
  | condition rows =>
      simp only [followed, payload, List.mem_append, Option.mem_toList,
        List.mem_filterMap] at isFollowed
      rcases isFollowed with isDefault | ⟨row, -, ofRow⟩
      · exact (mem_of_edge? isDefault).1
      · exact (mem_of_edge? ofRow).1

/-- The ways that go on are the followed steps. -/
theorem onward_mem_ways_iff {source target : Node} :
    .onward target ∈ graph.ways source ↔ graph.Follows source target := by
  unfold ways Follows followed
  cases source.payload with
  | condition rows =>
      simp only [List.mem_append, List.mem_map, way_eq_onward_iff, rowWay_eq_onward_iff,
        List.mem_filterMap]
      constructor
      · rintro (⟨edge, isDefault, found⟩ | ⟨row, declared, edge, ofRow, found⟩)
        · exact ⟨edge, .inl isDefault, found⟩
        · exact ⟨edge, .inr ⟨row, declared, ofRow⟩, found⟩
      · rintro ⟨edge, isDefault | ⟨row, declared, ofRow⟩, found⟩
        · exact .inl ⟨edge, isDefault, found⟩
        · exact .inr ⟨row, declared, edge, ofRow, found⟩
  | input | action => simp only [List.mem_map, way_eq_onward_iff]

/-- The ways that go nowhere are the followed edges without a node at their end and the rows
without an edge. -/
theorem lost_mem_ways_iff {node : Node} {warning : Warning} :
    .lost warning ∈ graph.ways node ↔
      (∃ edge ∈ graph.followed node, graph.node? edge.target = none ∧
        .unresolvedTarget node.id edge = warning) ∨
      ∃ rows, node.payload = .condition rows ∧ ∃ row ∈ rows,
        graph.edge? node.id (some row.id) = none ∧ .missingBranchEdge node.id row = warning := by
  unfold ways followed
  cases payload : node.payload with
  | condition rows =>
      simp only [List.mem_append, List.mem_map, way_eq_lost_iff, rowWay_eq_lost_iff,
        List.mem_filterMap, Payload.condition.injEq, exists_eq_left']
      constructor
      · rintro (⟨edge, isDefault, lost⟩ | ⟨row, declared, ⟨edge, ofRow, lost⟩ | unconnected⟩)
        · exact .inl ⟨edge, .inl isDefault, lost⟩
        · exact .inl ⟨edge, .inr ⟨row, declared, ofRow⟩, lost⟩
        · exact .inr ⟨row, declared, unconnected⟩
      · rintro (⟨edge, isDefault | ⟨row, declared, ofRow⟩, lost⟩ | ⟨row, declared, unconnected⟩)
        · exact .inl ⟨edge, isDefault, lost⟩
        · exact .inr ⟨row, declared, .inl ⟨edge, ofRow, lost⟩⟩
        · exact .inr ⟨row, declared, .inr unconnected⟩
  | input | action => simp [way_eq_lost_iff]

theorem follows_iff_of_linear {source target : Node} (linear : source.kind ≠ .condition) :
    graph.Follows source target ↔
      graph.target? (graph.outgoing source.id).head? = some target := by
  simp [Follows, followed_of_linear linear, target?, Option.bind_eq_some_iff]

theorem follows_iff_of_condition {source target : Node} {rows : List BranchRow}
    (payload : source.payload = .condition rows) :
    graph.Follows source target ↔
      graph.target? (graph.edge? source.id (some defaultHandle)) = some target ∨
        ∃ row ∈ rows, graph.target? (graph.edge? source.id (some row.id)) = some target := by
  simp only [Follows, followed, payload, target?, Option.bind_eq_some_iff, List.mem_append,
    Option.mem_toList, List.mem_filterMap]
  constructor
  · rintro ⟨edge, isDefault | ⟨row, declared, ofRow⟩, found⟩
    · exact .inl ⟨edge, isDefault, found⟩
    · exact .inr ⟨row, declared, edge, ofRow, found⟩
  · rintro (⟨edge, isDefault, found⟩ | ⟨row, declared, edge, ofRow, found⟩)
    · exact ⟨edge, .inl isDefault, found⟩
    · exact ⟨edge, .inr ⟨row, declared, ofRow⟩, found⟩

theorem Follows.mem_nodes {source target : Node} (step : graph.Follows source target) :
    target ∈ graph.nodes := by
  obtain ⟨edge, -, found⟩ := step
  exact mem_of_node? found

/-- The target of a step is the node that its id stands for. -/
theorem Follows.node?_id {source target : Node} (step : graph.Follows source target) :
    graph.node? target.id = some target := by
  obtain ⟨edge, -, found⟩ := step
  rw [id_of_node? found]
  exact found

theorem Follows.eq_of_id_eq {first second target other : Node} (step : graph.Follows first target)
    (otherStep : graph.Follows second other) (same : target.id = other.id) : target = other := by
  have found := step.node?_id
  rw [same, otherStep.node?_id] at found
  exact (Option.some.inj found).symm

/-- In a chain of followed steps, every node but the first is stepped to. -/
theorem exists_step_of_isChain {first target : Node} {rest : List Node}
    (chain : (first :: rest).IsChain graph.Follows) (member : target ∈ rest) :
    ∃ source, graph.Follows source target := by
  induction rest generalizing first with
  | nil => exact absurd member List.not_mem_nil
  | cons next rest inductionHypothesis =>
      obtain ⟨step, chain⟩ := List.isChain_cons_cons.mp chain
      rcases List.mem_cons.mp member with rfl | isLater
      · exact ⟨first, step⟩
      · exact inductionHypothesis chain isLater

theorem Reaches.mem_nodes {source target : Node} (reached : graph.Reaches source target)
    (member : source ∈ graph.nodes) : target ∈ graph.nodes := by
  induction reached with
  | refl => exact member
  | tail _ step => exact step.mem_nodes

end Graph

end Flowchart
