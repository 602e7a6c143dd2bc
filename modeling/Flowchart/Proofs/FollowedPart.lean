import Flowchart.Proofs.Likeness
import Flowchart.Proofs.Outcome
import Flowchart.Proofs.Reachability
import Flowchart.Proofs.Unfolding

/-!
The part of a graph that a compilation follows: the nodes that are reached from the input node, and
the edges that leave them, without those that a condition is never left by. The rest of the graph
makes no difference to what is compiled, told or met, except that nodes and edges are counted.
-/

namespace Flowchart

section

variable {α : Type} {keep : List α → α → Bool} {test : α → Bool}

/-- The items of a list that pass a test which also sees the items before them. -/
def filterAfter (keep : List α → α → Bool) (before : List α) : List α → List α
  | [] => []
  | item :: rest =>
      if keep before item then item :: filterAfter keep (before ++ [item]) rest
      else filterAfter keep (before ++ [item]) rest

theorem filter_filterAfter
    (kept : ∀ before item, test item = true → keep before item = true)
    (before list : List α) : (filterAfter keep before list).filter test = list.filter test := by
  induction list generalizing before with
  | nil => rfl
  | cons item rest inductionHypothesis =>
      have later := inductionHypothesis (before ++ [item])
      rw [filterAfter]
      cases asked : test item with
      | true => rw [if_pos (kept before item asked), List.filter_cons_of_pos asked, later,
          List.filter_cons_of_pos asked]
      | false =>
          rw [List.filter_cons_of_neg (by simp [asked]), ← later]
          split
          · exact List.filter_cons_of_neg (by simp [asked])
          · rfl

theorem find?_filterAfter
    (kept : ∀ before item, before.find? test = none → test item = true → keep before item = true)
    {before : List α} (unmet : before.find? test = none) (list : List α) :
    (filterAfter keep before list).find? test = list.find? test := by
  induction list generalizing before with
  | nil => rfl
  | cons item rest inductionHypothesis =>
      rw [filterAfter]
      cases asked : test item with
      | true => rw [if_pos (kept before item unmet asked), List.find?_cons_of_pos asked,
          List.find?_cons_of_pos asked]
      | false =>
          -- The item is none of those that are looked for, kept or not.
          have unmetStill : (before ++ [item]).find? test = none := by
            simp [List.find?_append, unmet, asked]
          have later := inductionHypothesis unmetStill
          rw [List.find?_cons_of_neg (by simp [asked]), ← later]
          split
          · exact List.find?_cons_of_neg (by simp [asked])
          · rfl

end

namespace Graph

/-- Whether an edge leaves a condition by a handle that the condition does not have, or by one that
an edge before it leaves by. -/
def isIdle (graph : Graph) (before : List Edge) (edge : Edge) : Bool :=
  match (graph.node? edge.source).map Node.payload with
  | some (.condition rows) =>
      !isKnownHandle rows edge.sourceHandle ||
        before.any fun other =>
          other.source = edge.source ∧ other.sourceHandle = edge.sourceHandle
  | _ => false

/-- The part of a graph that is followed from a node. -/
def followedPart (graph : Graph) (entry : Node) : Graph where
  nodes := graph.nodes.filter fun node => graph.ReachesId entry node.id
  edges := filterAfter
    (fun before edge => graph.ReachesId entry edge.source && !graph.isIdle before edge) []
    graph.edges

variable {graph : Graph} {entry node : Node}

theorem node?_of_distinct (distinct : (graph.nodes.map Node.id).Nodup)
    (member : node ∈ graph.nodes) : graph.node? node.id = some node := by
  cases found : graph.node? node.id with
  | none => exact absurd rfl (node?_eq_none_iff.mp found node member)
  | some other =>
      rw [List.inj_on_of_nodup_map distinct (mem_of_node? found) member (id_of_node? found)]

theorem node?_followedPart {id : Text} (inside : graph.ReachesId entry id) :
    (graph.followedPart entry).node? id = graph.node? id := by
  rw [node?, node?, followedPart, List.find?_filter]
  congr 1
  funext other
  by_cases named : other.id = id <;> simp [named, inside]

theorem node?_followedPart_of_none {id : Text} (missing : graph.node? id = none) :
    (graph.followedPart entry).node? id = none := by
  rw [node?_eq_none_iff] at missing ⊢
  intro other member
  exact missing other (List.mem_filter.mp member).1

section

variable (known : graph.node? node.id = some node) (inside : graph.ReachesId entry node.id)
include known inside

theorem outgoing_followedPart (linear : node.kind ≠ .condition) :
    (graph.followedPart entry).outgoing node.id = graph.outgoing node.id := by
  apply filter_filterAfter
  intro before edge leaves
  have source : edge.source = node.id := of_decide_eq_true leaves
  have busy : graph.isIdle before edge = false := by
    rw [isIdle, source, known, Option.map_some]
    cases payload : node.payload with
    | input | action => rfl
    | condition rows => simp [Node.kind, payload, Payload.kind] at linear
  simp [source, inside, busy]

theorem edge?_followedPart {rows : List BranchRow} (payload : node.payload = .condition rows)
    {handle : Option Text} (has : isKnownHandle rows handle = true) :
    (graph.followedPart entry).edge? node.id handle = graph.edge? node.id handle := by
  apply find?_filterAfter _ rfl
  intro before edge unmet leaves
  obtain ⟨source, byHandle⟩ : edge.source = node.id ∧ edge.sourceHandle = handle :=
    of_decide_eq_true leaves
  have busy : graph.isIdle before edge = false := by
    rw [isIdle, source, known, Option.map_some, payload, byHandle]
    simpa [has] using unmet
  simp [source, inside, busy]

/-- The part answers at a node that is reached as the whole graph does. -/
theorem alikeAt_followedPart (reached : graph.Reaches entry node) :
    graph.AlikeAt (graph.followedPart entry) node where
  outgoing := outgoing_followedPart known inside
  handles := by
    intro rows payload handle has
    exact edge?_followedPart known inside payload has
  targets := by
    intro edge followed
    cases found : graph.node? edge.target with
    | none => exact node?_followedPart_of_none found
    | some target =>
        rw [← found]
        exact node?_followedPart ⟨target, reached.tail ⟨edge, followed, found⟩, id_of_node? found⟩

end

variable (options : Options) (summary description : Text)

section

variable (single : graph.inputs = [entry]) (distinct : (graph.nodes.map Node.id).Nodup)
include single

theorem inputs_followedPart : (graph.followedPart entry).inputs = [entry] := by
  have inside : graph.ReachesId entry entry.id := ⟨entry, .refl, rfl⟩
  rw [inputs, followedPart, List.filter_comm]
  change graph.inputs.filter _ = _
  rw [single, List.filter_cons_of_pos (by simpa using inside), List.filter_nil]

include distinct

theorem walkFrom_followedPart :
    (graph.followedPart entry).walkFrom entry = graph.walkFrom entry := by
  have member := mem_nodes_of_inputs single
  have kept := mem_nodes_of_inputs (inputs_followedPart single)
  rw [walkFrom_of_mem member, walkFrom_of_mem kept]
  refine walk_congr ⟨entry, member⟩ ?_ kept
  intro node reached
  have known := node?_of_distinct distinct (reached.mem_nodes member)
  exact alikeAt_followedPart known ⟨node, reached, rfl⟩ reached

/-- What is not followed makes no difference to a compilation: without it the same document or the
same error comes out, with the same warnings and the same nodes compiled. -/
theorem compile_followedPart :
    let whole := graph.compile options summary description
    let part := (graph.followedPart entry).compile options summary description
    part.succeeded = whole.succeeded ∧
    part.document? = whole.document? ∧
    part.error? = whole.error? ∧
    part.warnings = whole.warnings ∧
    part.entry = whole.entry ∧
    part.compiled = whole.compiled := by
  intro whole part
  have result : part.result = whole.result := by
    simp only [part, whole, compile_of_input options summary description single,
      compile_of_input options summary description (inputs_followedPart single),
      walkFrom_followedPart single distinct]
  refine ⟨?_, ?_, ?_, ?_, ?_, ?_⟩
  · rw [Compilation.succeeded, Compilation.succeeded, result]
  · rw [Compilation.document?, Compilation.document?, result]
  · rw [Compilation.error?, Compilation.error?, result]
  all_goals
    simp only [part, whole, compile_of_input options summary description single,
      compile_of_input options summary description (inputs_followedPart single),
      walkFrom_followedPart single distinct]

end

/-- The forked graph with a node that leads back to itself, and with edges to that node that are
never followed: one by an unknown handle, one after another by the same handle. -/
def littered : Graph where
  nodes := ⟨"aside", none, .empty, .action none []⟩ :: forked.nodes
  edges :=
    edge "aside" "aside" none :: edge "check" "aside" (some "unknown") ::
      forked.edges ++ [edge "check" "aside" (some "large")]

theorem littered_followedPart :
    ∃ entry, littered.inputs = [entry] ∧ (littered.nodes.map Node.id).Nodup ∧
      (littered.followedPart entry).nodes = forked.nodes ∧
      (littered.followedPart entry).edges = forked.edges.eraseIdx 3 ∧
      let whole := littered.compile .default "flow" ""
      let part := (littered.followedPart entry).compile .default "flow" ""
      part.succeeded = whole.succeeded ∧
      part.document? = whole.document? ∧
      part.error? = whole.error? ∧
      part.warnings = whole.warnings ∧
      part.entry = whole.entry ∧
      part.compiled = whole.compiled := by
  have single : littered.inputs = [⟨"start", none, .empty,
      .input [⟨"", "amount", .number, true⟩, ⟨"", " ", .string, true⟩]⟩] := by decide +kernel
  have distinct : (littered.nodes.map Node.id).Nodup := by decide +kernel
  exact ⟨_, single, distinct, by decide +kernel, by decide +kernel,
    compile_followedPart .default "flow" "" single distinct⟩

end Graph

end Flowchart
