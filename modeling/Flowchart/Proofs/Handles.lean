import Flowchart.Palette
import Flowchart.Proofs.Lint
import Flowchart.Proofs.Shape

/-!
The handles of a condition as they are drawn, checked and compiled. An edge is reported exactly if
it leaves a condition by a handle that is not drawn, and the module of a condition is read off the
handles in the order in which they are drawn. Two rows of one id are two handles with one edge, and a
row that is named like the default handle shares its edge; neither makes a difference.
-/

namespace Flowchart

theorem Node.handles_of_condition {node : Node} {rows : List BranchRow}
    (payload : node.payload = .condition rows) :
    node.handles = ⟨some defaultHandle, some "Default Branch"⟩ ::
      rows.map fun row => ⟨some row.id, some row.label⟩ := by
  rw [handles, payload]

/-- Whether an issue tells of an edge that leaves the condition of an id by an unknown handle. -/
def Issue.isUnknownHandleOf (id : Text) : Issue → Bool
  | unknownHandle node _ => node = id
  | _ => false

theorem Issue.isUnknownHandleOf_eq_true_iff {id : Text} {issue : Issue} :
    issue.isUnknownHandleOf id = true ↔ ∃ handle, issue = .unknownHandle id handle := by
  cases issue <;> simp [isUnknownHandleOf]

namespace Graph

variable {graph : Graph} {condition : Node} {rows : List BranchRow}

/-! ## Handles that are checked -/

/-- The handles that are known of a condition are those that are drawn. -/
theorem isKnownHandle_iff_mem_handles (payload : condition.payload = .condition rows)
    {handle : Option Text} :
    isKnownHandle rows handle = true ↔ handle ∈ condition.handles.map Handle.id := by
  rw [isKnownHandle_eq_true_iff, Node.handles_of_condition payload]
  simp [eq_comm]

/-- The edges that leave a condition by a handle that is not drawn. -/
def undrawn (graph : Graph) (condition : Node) : List Edge :=
  (graph.outgoing condition.id).filter fun edge =>
    edge.sourceHandle ∉ condition.handles.map Handle.id

theorem nodeIssues_of_condition (payload : condition.payload = .condition rows) :
    graph.nodeIssues condition =
      (graph.undrawn condition).map fun edge => .unknownHandle condition.id edge.sourceHandle := by
  simp only [nodeIssues, payload, undrawn]
  congr 2
  funext edge
  simp [← isKnownHandle_iff_mem_handles payload]

theorem filter_nodeIssues_of_ne {node : Node} {id : Text} (other : node.id ≠ id) :
    (graph.nodeIssues node).filter (Issue.isUnknownHandleOf id) = [] := by
  rw [List.filter_eq_nil_iff]
  intro issue isIssue told
  obtain ⟨handle, rfl⟩ := Issue.isUnknownHandleOf_eq_true_iff.mp told
  rcases mem_nodeIssues_iff.mp isIssue with ⟨_, _, _, _, _, same⟩ | ⟨_, _, same⟩
  · exact other (Issue.unknownHandle.inj same).1.symm
  · cases same

theorem filter_flatMap_nodeIssues (distinct : (graph.nodes.map Node.id).Nodup)
    (member : condition ∈ graph.nodes) :
    (graph.nodes.flatMap graph.nodeIssues).filter (Issue.isUnknownHandleOf condition.id) =
      (graph.nodeIssues condition).filter (Issue.isUnknownHandleOf condition.id) := by
  obtain ⟨before, after, split⟩ := List.append_of_mem member
  rw [split, List.map_append, List.map_cons, List.nodup_append, List.nodup_cons] at distinct
  obtain ⟨-, ⟨notAfter, -⟩, notBefore⟩ := distinct
  have quiet (nodes : List Node) (others : ∀ node ∈ nodes, node.id ≠ condition.id) :
      (nodes.flatMap graph.nodeIssues).filter (Issue.isUnknownHandleOf condition.id) = [] := by
    rw [List.filter_flatMap, List.flatMap_eq_nil_iff]
    intro node isNode
    exact filter_nodeIssues_of_ne (others node isNode)
  have before_quiet := quiet before fun node isNode =>
    notBefore node.id (List.mem_map_of_mem isNode) condition.id List.mem_cons_self
  have after_quiet := quiet after fun node isNode same =>
    notAfter (same ▸ List.mem_map_of_mem isNode)
  rw [split, List.flatMap_append, List.flatMap_cons, List.filter_append, List.filter_append,
    before_quiet, after_quiet, List.nil_append, List.append_nil]

theorem filter_lint_unknownHandle (id : Text) :
    graph.lint.filter (Issue.isUnknownHandleOf id) =
      (graph.nodes.flatMap graph.nodeIssues).filter (Issue.isUnknownHandleOf id) := by
  have apart (issues : List Issue) (others : ∀ handle, .unknownHandle id handle ∉ issues) :
      issues.filter (Issue.isUnknownHandleOf id) = [] := by
    rw [List.filter_eq_nil_iff]
    intro issue isIssue told
    obtain ⟨handle, rfl⟩ := Issue.isUnknownHandleOf_eq_true_iff.mp told
    exact others handle isIssue
  have noNodes := apart (if graph.nodes = [] then [.noNodes] else []) (by
    intro handle; split <;> simp)
  have repeated := apart ((repetitions [] (graph.nodes.map Node.id)).map .duplicateNode) (by simp)
  have inputs := apart graph.inputIssues (by simp [mem_inputIssues_iff])
  have edges := apart (graph.edges.flatMap graph.edgeIssues) (by simp [mem_edgeIssues_iff])
  simp only [lint, List.filter_append, noNodes, repeated, inputs, edges, List.nil_append]

/-- Where the issues of a condition are those of its undrawn handles, an edge that leaves it is told
of exactly if its handle is not drawn. -/
theorem unknownHandle_mem_iff {issues : List Issue}
    (told : issues.filter (Issue.isUnknownHandleOf condition.id) =
      (graph.undrawn condition).map fun edge => .unknownHandle condition.id edge.sourceHandle)
    {edge : Edge} (leaves : edge ∈ graph.outgoing condition.id) :
    .unknownHandle condition.id edge.sourceHandle ∈ issues ↔
      edge.sourceHandle ∉ condition.handles.map Handle.id := by
  have about : Issue.isUnknownHandleOf condition.id
      (.unknownHandle condition.id edge.sourceHandle) = true :=
    Issue.isUnknownHandleOf_eq_true_iff.mpr ⟨_, rfl⟩
  rw [← and_iff_left about (a := _ ∈ issues), ← List.mem_filter, told, List.mem_map]
  simp only [Issue.unknownHandle.injEq, true_and, undrawn, List.mem_filter, decide_eq_true_eq]
  constructor
  · rintro ⟨other, ⟨-, notDrawn⟩, same⟩
    rwa [same] at notDrawn
  · intro notDrawn
    exact ⟨edge, ⟨leaves, notDrawn⟩, rfl⟩

/-! ## Handles that are compiled -/

/-- Whether a handle leads to no node: it has no edge, or its first edge leads nowhere. -/
def isClosed (graph : Graph) (condition : Node) (handle : Handle) : Bool :=
  match graph.edge? condition.id handle.id with
  | some edge => (graph.node? edge.target).isNone
  | none => true

/-- What stands behind a handle, unless it is closed. -/
def behindHandle? (graph : Graph) (below : Node → List Module) (condition : Node)
    (handle : Handle) : Option (List Module) :=
  (graph.target? (graph.edge? condition.id handle.id)).map below

/-- Whether a module is read off the handles of a condition: the first gives the default list, and
each of the others a branch under its label, in order, unless it is closed. -/
def IsReadOff (graph : Graph) (condition : Node) (rows : List BranchRow) (module : Module) : Prop :=
  ∃ below first others default branches,
    (∀ target, graph.Follows condition target →
      graph.Unfolds graph.unroll target (below target)) ∧
    condition.handles = first :: others ∧
    module = .branchOne condition.id (some "") default branches ∧
    default = (graph.behindHandle? below condition first).getD [] ∧
    (branches.map fun branch => (some branch.summary, branch.modules)) =
      (others.filterMap fun handle =>
        (graph.behindHandle? below condition handle).map (handle.label, ·)) ∧
    rows.length = branches.length + others.countP (graph.isClosed condition)

theorem isClosed_eq_isNone (below : Node → List Module) (handle : Handle) :
    graph.isClosed condition handle = (graph.behindHandle? below condition handle).isNone := by
  cases found : graph.edge? condition.id handle.id with
  | none => simp [isClosed, behindHandle?, target?, found]
  | some edge => simp [isClosed, behindHandle?, target?, found]

theorem length_filterMap_add_countP {α β : Type} (pick? : α → Option β) (items : List α) :
    (items.filterMap pick?).length + items.countP (fun item => (pick? item).isNone) =
      items.length := by
  rw [List.length_filterMap_eq_countP,
    List.length_eq_countP_add_countP fun item => (pick? item).isSome]
  simp only [Bool.not_eq_true, Option.isSome_eq_false_iff, Bool.decide_eq_true]

theorem isReadOff_unroll (payload : condition.payload = .condition rows)
    {below : Node → List Module}
    (each : ∀ target, graph.Follows condition target →
      graph.Unfolds graph.unroll target (below target))
    {module : Module} {after : List Module}
    (unrolled : graph.unroll below condition = module :: after) :
    graph.IsReadOff condition rows module := by
  simp only [unroll, payload, List.cons.injEq] at unrolled
  obtain ⟨rfl, -⟩ := unrolled
  refine ⟨below, _, _, _, _, each, Node.handles_of_condition payload, rfl, ?_, ?_, ?_⟩
  · rw [behindHandle?]
    cases graph.target? (graph.edge? condition.id (some defaultHandle)) <;> rfl
  · rw [List.map_filterMap, List.filterMap_map]
    congr 1
    funext row
    simp [behindHandle?, Function.comp_def, Branch.summary, Branch.modules]
  · have counted := length_filterMap_add_countP
      (fun row : BranchRow => (graph.target? (graph.edge? condition.id (some row.id))).map
        fun target => Branch.mk row.label row.expression (below target)) rows
    rw [← counted, List.countP_map]
    congr 2
    funext row
    simp [isClosed_eq_isNone below, behindHandle?]

section

variable {entry : Node} (member : entry ∈ graph.nodes)
  (completed : (graph.walkFrom entry).completes = true)
  (reached : graph.Reaches entry condition) (payload : condition.payload = .condition rows)
include member completed reached payload

theorem holdsId_of_reaches : HoldsId (graph.walkFrom entry).modules condition.id := by
  apply holdsId_of_mem_moduleIds
  rw [← compiled_eq_moduleIds member completed, (unfolds_compiled member completed).mem_iff]
  refine ⟨condition, reached, .inl ?_⟩
  simp [Node.compiledId?, Node.isInput, Node.kind, payload, Payload.kind]

theorem isReadOff_of_place {before after : List Module} {module : Module}
    (place : Place (graph.walkFrom entry).modules before (module :: after))
    (named : module.id = condition.id) : graph.IsReadOff condition rows module := by
  obtain ⟨origin, below, reachedToo, own, each, unrolled⟩ :=
    (unfolds_modules member completed).exists_origin_of_place place
  obtain rfl : origin = condition :=
    eq_of_reaches ((completes_walkFrom_iff member).mp completed) reachedToo reached
      (own.1.symm.trans named)
  exact isReadOff_unroll payload each unrolled

end

/-- The handles of a condition are the same wherever they count. The issues of a graph name the edges
that leave it by a handle that is not drawn, each once; and where a graph compiles and the condition
is reached, its module is read off the handles. -/
theorem handles_agree (distinct : (graph.nodes.map Node.id).Nodup)
    (member : condition ∈ graph.nodes) (payload : condition.payload = .condition rows) :
    graph.lint.filter (Issue.isUnknownHandleOf condition.id) =
      ((graph.undrawn condition).map fun edge =>
        .unknownHandle condition.id edge.sourceHandle) ∧
    (∀ edge ∈ graph.edges, edge.source = condition.id →
      (.unknownHandle condition.id edge.sourceHandle ∈ graph.lint ↔
        edge.sourceHandle ∉ condition.handles.map Handle.id)) ∧
    ∀ options summary description,
      (graph.compile options summary description).succeeded = true →
        ∃ entry document, graph.inputs = [entry] ∧
          (graph.compile options summary description).document? = some document ∧
          (graph.Reaches entry condition →
            HoldsId document.modules condition.id ∧
            ∀ before module after, Place document.modules before (module :: after) →
              module.id = condition.id → graph.IsReadOff condition rows module) := by
  have told : graph.lint.filter (Issue.isUnknownHandleOf condition.id) =
      (graph.undrawn condition).map fun edge => .unknownHandle condition.id edge.sourceHandle := by
    rw [filter_lint_unknownHandle, filter_flatMap_nodeIssues distinct member,
      nodeIssues_of_condition payload, List.filter_eq_self]
    intro issue isIssue
    obtain ⟨edge, -, rfl⟩ := List.mem_map.mp isIssue
    exact Issue.isUnknownHandleOf_eq_true_iff.mpr ⟨_, rfl⟩
  refine ⟨told, ?_, ?_⟩
  · intro edge isEdge leaves
    exact unknownHandle_mem_iff told (List.mem_filter.mpr ⟨isEdge, decide_eq_true leaves⟩)
  · intro options summary description succeeded
    obtain ⟨entry, single, completed⟩ := exists_entry_of_succeeded succeeded
    have isNode := mem_nodes_of_inputs single
    refine ⟨entry, _, single, document?_of_input options summary description single completed, ?_⟩
    intro reached
    refine ⟨holdsId_of_reaches isNode completed reached payload, ?_⟩
    intro before module after place named
    exact isReadOff_of_place isNode completed reached payload place named

/-- A condition with a row that is named like the default handle, two rows of one id, a row whose edge
leads nowhere and one without an edge, and with two edges that leave it by no handle of its own. -/
def crossedRows : List BranchRow :=
  [⟨"default", "Again", "true"⟩, ⟨"large", "Large", "amount > 9"⟩,
   ⟨"large", "Huge", "amount > 99"⟩, ⟨"lost", "Lost", "false"⟩, ⟨"none", "None", "false"⟩]

def crossedCondition : Node := ⟨"check", none, .empty, .condition crossedRows⟩

def crossed : Graph where
  nodes :=
    [⟨"start", none, .empty, .input []⟩, crossedCondition,
     ⟨"send", none, .empty, .action (some "mail/send") []⟩]
  edges :=
    [edge "start" "check" none, edge "check" "send" (some "stale"),
     edge "check" "send" (some "default"), edge "check" "send" (some "large"),
     edge "check" "nowhere" (some "lost"), edge "check" "send" none]

theorem crossed_handles_agree :
    (crossed.nodes.map Node.id).Nodup ∧ crossedCondition ∈ crossed.nodes ∧
      crossedCondition.payload = .condition crossedRows ∧
      crossed.lint.filter (Issue.isUnknownHandleOf crossedCondition.id) =
        ((crossed.undrawn crossedCondition).map fun edge =>
          .unknownHandle crossedCondition.id edge.sourceHandle) ∧
      (∀ edge ∈ crossed.edges, edge.source = crossedCondition.id →
        (.unknownHandle crossedCondition.id edge.sourceHandle ∈ crossed.lint ↔
          edge.sourceHandle ∉ crossedCondition.handles.map Handle.id)) ∧
      (crossed.compile .default "" "").succeeded = true ∧
      ∃ entry document, crossed.inputs = [entry] ∧
        (crossed.compile .default "" "").document? = some document ∧
        crossed.Reaches entry crossedCondition ∧
        HoldsId document.modules crossedCondition.id ∧
        ∀ before module after, Place document.modules before (module :: after) →
          module.id = crossedCondition.id →
            crossed.IsReadOff crossedCondition crossedRows module := by
  have distinct : (crossed.nodes.map Node.id).Nodup := by decide
  have member : crossedCondition ∈ crossed.nodes := by simp [crossed]
  have succeeded : (crossed.compile .default "" "").succeeded = true := by decide +kernel
  obtain ⟨told, each, compiled⟩ := handles_agree distinct member rfl
  obtain ⟨entry, document, single, made, readOff⟩ := compiled .default "" "" succeeded
  obtain rfl : ⟨"start", none, .empty, .input []⟩ = entry := List.head_eq_of_cons_eq single
  have reached : crossed.Reaches ⟨"start", none, .empty, .input []⟩ crossedCondition :=
    Relation.ReflTransGen.single ⟨edge "start" "check" none, by decide +kernel, rfl⟩
  exact ⟨distinct, member, rfl, told, each, succeeded, _, document, single, made, reached,
    readOff reached⟩

-- The row that is named like the default handle takes no part in what is told.
example : crossed.lint.filter (Issue.isUnknownHandleOf "check") =
    [.unknownHandle "check" (some "stale"), .unknownHandle "check" none] := by decide +kernel

end Graph

end Flowchart
