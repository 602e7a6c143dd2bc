import Flowchart.Proofs.Lint
import Flowchart.Proofs.Normalize

/-!
What tidying does to the issues of a graph. Rows with a blank label are dropped with their handles,
so edges that leave by such a handle are stranded: each becomes an issue, where another row that is
kept or the default does not keep the handle. Nothing else about the issues changes, neither which
there are nor how they are ordered.
-/

namespace Flowchart

/-- A list that comes of another by putting new items among the old ones, whose order stays. -/
structure GrowsBy {α : Type} (old new whole : List α) : Prop where
  sublist : old.Sublist whole
  perm : whole.Perm (old ++ new)

namespace GrowsBy

variable {α β : Type} {old new whole other more all : List α}

theorem refl (items : List α) : GrowsBy items [] items :=
  ⟨List.Sublist.refl items, by rw [List.append_nil]⟩

theorem only (items : List α) : GrowsBy [] items items :=
  ⟨List.nil_sublist items, List.Perm.refl items⟩

theorem append (first : GrowsBy old new whole) (second : GrowsBy other more all) :
    GrowsBy (old ++ other) (new ++ more) (whole ++ all) := by
  refine ⟨first.sublist.append second.sublist, ?_⟩
  apply (first.perm.append second.perm).trans
  have exchanged : (new ++ other).Perm (other ++ new) := List.perm_append_comm
  simpa only [List.append_assoc] using (exchanged.append_right more).append_left old

theorem map (grown : GrowsBy old new whole) (change : α → β) :
    GrowsBy (old.map change) (new.map change) (whole.map change) := by
  refine ⟨grown.sublist.map change, ?_⟩
  rw [← List.map_append]
  exact grown.perm.map change

theorem flatMap {items : List β} {first added last : β → List α}
    (each : ∀ item ∈ items, GrowsBy (first item) (added item) (last item)) :
    GrowsBy (items.flatMap first) (items.flatMap added) (items.flatMap last) := by
  induction items with
  | nil => exact refl []
  | cons item rest inductionHypothesis =>
      simp only [List.flatMap_cons]
      apply (each item List.mem_cons_self).append
      exact inductionHypothesis fun later member => each later (List.mem_cons_of_mem item member)

/-- A filter that lets more through, by those that it lets through in addition. -/
theorem filter {before added after : α → Bool} (items : List α)
    (splits : ∀ item, after item = (before item || added item))
    (apart : ∀ item, before item = true → added item = false) :
    GrowsBy (items.filter before) (items.filter added) (items.filter after) := by
  induction items with
  | nil => exact refl []
  | cons item rest inductionHypothesis =>
      cases old : before item with
      | true =>
          have whole : after item = true := by rw [splits, old, Bool.true_or]
          simp only [List.filter_cons, old, apart item old, whole, if_true, Bool.false_eq_true,
            if_false]
          exact (refl [item]).append inductionHypothesis
      | false =>
          cases new : added item with
          | true =>
              have whole : after item = true := by rw [splits, new, Bool.or_true]
              simp only [List.filter_cons, old, new, whole, if_true, Bool.false_eq_true, if_false]
              exact (only [item]).append inductionHypothesis
          | false =>
              have whole : after item = false := by rw [splits, old, new, Bool.or_false]
              simpa only [List.filter_cons, old, new, whole, Bool.false_eq_true, if_false] using
                inductionHypothesis

theorem eq_of_nil (grown : GrowsBy old [] whole) : whole = old := by
  refine (grown.sublist.eq_of_length ?_).symm
  rw [grown.perm.length_eq, List.append_nil]

end GrowsBy

/-- Whether tidying takes a handle away: it is that of a row with a blank label, and neither the
default handle nor that of a row that is kept. -/
def LosesHandle (rows : List BranchRow) (handle : Option Text) : Prop :=
  (∃ row ∈ rows, hasText row.label = false ∧ handle = some row.id) ∧
  handle ≠ some defaultHandle ∧
  ∀ row ∈ rows, hasText row.label = true → handle ≠ some row.id

instance (rows : List BranchRow) (handle : Option Text) : Decidable (LosesHandle rows handle) :=
  inferInstanceAs (Decidable (_ ∧ _ ∧ _))

namespace Graph

variable {graph : Graph} {node : Node} {rows : List BranchRow}

/-- The handles that a tidied condition has left are those that it does not lose. -/
theorem isKnownHandle_tidied_iff {handle : Option Text} :
    isKnownHandle (rows.filter fun row => !isBlankText row.label) handle = true ↔
      isKnownHandle rows handle = true ∧ ¬LosesHandle rows handle := by
  simp only [isKnownHandle_eq_true_iff, List.mem_filter, ← hasText_eq, LosesHandle]
  constructor
  · rintro (isDefault | ⟨row, ⟨declared, kept⟩, named⟩)
    · exact ⟨.inl isDefault, fun lost => lost.2.1 isDefault⟩
    · exact ⟨.inr ⟨row, declared, named⟩, fun lost => lost.2.2 row declared kept named⟩
  · rintro ⟨isDefault | ⟨row, declared, named⟩, notLost⟩
    · exact .inl isDefault
    · by_contra gone
      rw [not_or] at gone
      obtain ⟨notDefault, noneKept⟩ := gone
      have blank : hasText row.label = false := by
        rw [← Bool.not_eq_true]
        intro kept
        exact noneKept ⟨row, ⟨declared, kept⟩, named⟩
      refine notLost ⟨⟨row, declared, blank, named⟩, notDefault, ?_⟩
      intro other isRow kept same
      exact noneKept ⟨other, ⟨isRow, kept⟩, same⟩

theorem isKnownHandle_of_losesHandle {handle : Option Text} (lost : LosesHandle rows handle) :
    isKnownHandle rows handle = true := by
  obtain ⟨⟨row, declared, -, named⟩, -⟩ := lost
  exact isKnownHandle_eq_true_iff.mpr (.inr ⟨row, declared, named⟩)

/-- The edges that leave a node by a handle that tidying takes away. -/
def stranded (graph : Graph) (node : Node) : List Edge :=
  match node.payload with
  | .condition rows =>
      (graph.outgoing node.id).filter fun edge => LosesHandle rows edge.sourceHandle
  | _ => []

/-- What is told of stranded edges, once for each node and each of its edges. -/
def strandedIssues (graph : Graph) : List Issue :=
  graph.nodes.flatMap fun node =>
    (graph.stranded node).map fun edge => .unknownHandle node.id edge.sourceHandle

theorem edgeIssues_normalize (edge : Edge) :
    graph.normalize.edgeIssues edge = graph.edgeIssues edge := by
  have sameKind (node : Node) : node.normalize.isInput = node.isInput := by simp [Node.isInput]
  simp [edgeIssues, node?_normalize, Option.any_map, sameKind]

theorem inputIssues_normalize : graph.normalize.inputIssues = graph.inputIssues := by
  rw [inputIssues, inputIssues, inputs_normalize]
  rcases graph.inputs with _ | ⟨first, _ | ⟨second, others⟩⟩ <;> simp

theorem nodeIssues_normalize (node : Node) :
    GrowsBy (graph.nodeIssues node)
      ((graph.stranded node).map fun edge => .unknownHandle node.id edge.sourceHandle)
      (graph.normalize.nodeIssues node.normalize) := by
  cases payload : node.payload with
  | input | action =>
      have same : graph.normalize.nodeIssues node.normalize = graph.nodeIssues node := by
        simp only [nodeIssues, Node.payload_normalize, payload, Payload.normalize]
        rfl
      rw [same, stranded, payload]
      exact GrowsBy.refl _
  | condition rows =>
      simp only [nodeIssues, stranded, Node.payload_normalize, payload, Payload.normalize,
        Node.id_normalize, outgoing_normalize]
      apply GrowsBy.map
      apply GrowsBy.filter
      · intro edge
        rw [Bool.eq_iff_iff, Bool.or_eq_true, Bool.not_eq_true', ← Bool.not_eq_true,
          isKnownHandle_tidied_iff, decide_eq_true_iff, Bool.not_eq_true', ← Bool.not_eq_true,
          not_and_or, not_not]
      · intro edge unknown
        rw [Bool.not_eq_true'] at unknown
        apply decide_eq_false
        intro lost
        rw [isKnownHandle_of_losesHandle lost] at unknown
        cases unknown

theorem nodesIssues_normalize :
    GrowsBy (graph.nodes.flatMap graph.nodeIssues) graph.strandedIssues
      (graph.normalize.nodes.flatMap graph.normalize.nodeIssues) := by
  rw [normalize, List.flatMap_map]
  exact GrowsBy.flatMap fun node _ => nodeIssues_normalize node

theorem lint_normalize : GrowsBy graph.lint graph.strandedIssues graph.normalize.lint := by
  have ids : graph.normalize.nodes.map Node.id = graph.nodes.map Node.id := by
    simp [normalize, Function.comp_def]
  have edges : graph.normalize.edges.flatMap graph.normalize.edgeIssues =
      graph.edges.flatMap graph.edgeIssues :=
    List.flatMap_congr fun edge _ => edgeIssues_normalize edge
  have empty : graph.normalize.nodes = [] ↔ graph.nodes = [] := by simp [normalize]
  simp only [lint, ids, edges, empty, inputIssues_normalize]
  exact (GrowsBy.refl _).append nodesIssues_normalize

/-- Tidying leaves the issues of a graph as they are, and adds one for each edge of a condition that
leaves it by a handle which tidying takes away, and no other. So it changes nothing where no edge
leaves a condition by the handle of a row with a blank label. -/
theorem lint_normalized (graph : Graph) :
    GrowsBy graph.lint graph.strandedIssues graph.normalize.lint ∧
    GrowsBy (graph.lint.map Issue.message) (graph.strandedIssues.map Issue.message)
      (graph.normalize.lint.map Issue.message) ∧
    ((∀ node ∈ graph.nodes, ∀ rows, node.payload = .condition rows →
        ∀ row ∈ rows, hasText row.label = false →
          ∀ edge ∈ graph.edges, edge.source = node.id → edge.sourceHandle ≠ some row.id) →
      graph.normalize.lint = graph.lint) := by
  refine ⟨lint_normalize, lint_normalize.map Issue.message, ?_⟩
  intro unconnected
  apply GrowsBy.eq_of_nil
  have nothing : graph.strandedIssues = [] := by
    rw [strandedIssues, List.flatMap_eq_nil_iff]
    intro node member
    rw [List.map_eq_nil_iff]
    cases payload : node.payload with
    | input | action => rw [stranded, payload]
    | condition rows =>
        rw [stranded, payload]
        refine List.filter_eq_nil_iff.mpr fun edge leaves lost => ?_
        obtain ⟨isEdge, leaves⟩ := List.mem_filter.mp leaves
        obtain ⟨⟨row, declared, blank, named⟩, -⟩ := of_decide_eq_true lost
        exact unconnected node member rows payload row declared blank edge isEdge
          (of_decide_eq_true leaves) named
  exact nothing ▸ lint_normalize

-- Of two rows with one id the blank one takes nothing away; the other blank row does.
example :
    let rows : List BranchRow :=
      [⟨"large", " ", "true"⟩, ⟨"large", "Large", "true"⟩, ⟨"small", "", "true"⟩]
    let graph : Graph :=
      ⟨[⟨"check", none, .empty, .condition rows⟩],
       [⟨none, "check", "check", some "large", none⟩, ⟨none, "check", "check", some "small", none⟩]⟩
    graph.lint = [.noInput] ∧
      graph.normalize.lint = [.noInput, .unknownHandle "check" (some "small")] := by
  decide +kernel

end Graph

end Flowchart
