import Flowchart.Editor
import Flowchart.Proofs.GraphRoundTrip
import Flowchart.Proofs.Normalize

/-!
Editing a graph. What is added is read by itself, whatever is there already. Through any run of
edits, refused ones among them, a node stays what it is but for the tidying: only its removal or
another graph in place of the whole one takes it away.
-/

namespace Flowchart

open Reading

/-- An edit that neither removes the nodes with an id nor replaces the graph. -/
def Edit.Keeps (id : Text) : Edit → Prop
  | .load .. | .initial => False
  | .removeNode other => other ≠ id
  | .add .. | .drop .. | .removeEdge _ | .normalize => True

/-! ## Models with raw items behind them -/

section

variable {α : Type} {write : α → Json}

theorem CanvasItem.map_toJson_append (items : List α) (raw : List Json) :
    (items.map CanvasItem.model ++ raw.map CanvasItem.raw).map (CanvasItem.toJson write) =
      items.map write ++ raw := by
  simp [Function.comp_def, CanvasItem.toJson]

theorem Reading.mapM_value?_append {read : Json → Reading α}
    (each : ∀ item, (read (write item)).value? = some item) (items : List α) (raw : List Json) :
    (items.map write ++ raw).mapM (fun value => (read value).value?) =
      (raw.mapM fun value => (read value).value?).map (items ++ ·) := by
  rw [List.mapM_append, mapM_value?_map each]
  cases raw.mapM fun value => (read value).value? <;> rfl

theorem Node.findSome?_unusableType?_append (nodes : List Node) (raw : List Json) :
    (nodes.map Node.toJson ++ raw).findSome? Node.unusableType? =
      raw.findSome? Node.unusableType? := by
  have noneWritten : (nodes.map Node.toJson).findSome? Node.unusableType? = none := by
    simp [Node.unusableType?_toJson]
  rw [List.findSome?_append, noneWritten, Option.none_or]

end

/-! ## Nodes from the palette -/

theorem Kind.load_eq_ok_iff {value : Json} {kind : Kind} :
    Kind.load value = .ok kind ↔ value = .str kind.name := by
  cases value with
  | str name =>
      rw [Json.str.injEq, ← Kind.ofName?_eq_some_iff, Kind.load]
      cases Kind.ofName? name <;> simp
  | _ => simp [Kind.load]

theorem Node.create_eq_ok_iff {id : Text} {kind : Kind} {position : Json} {node : Node} :
    Node.create id kind position = .ok node ↔
      kind.isDroppable = true ∧
        ∃ place, Node.loadPlace position = .ok place ∧ .fresh id kind place = node := by
  rw [Node.create]
  cases kind.isDroppable <;> cases Node.loadPlace position <;> simp [Except.map]

theorem bind_eq_ok_iff {α β : Type} {attempt : Except Refusal α} {next : α → Except Refusal β}
    {result : β} :
    attempt >>= next = .ok result ↔ ∃ value, attempt = .ok value ∧ next value = .ok result := by
  cases attempt <;> simp [bind, Except.bind]

namespace Graph

variable {graph result : Graph} {edit : Edit} {id : Text} {node : Node}

/-! ## What an edit adds -/

theorem ofItems_eq_ok_iff {nodes edges : List Json} :
    ofItems nodes edges = .ok graph ↔
      nodes.findSome? Node.unusableType? = none ∧
      nodes.mapM (fun value => (Node.read .caller value).value?) = some graph.nodes ∧
      edges.mapM (fun value => (Edge.read .caller value).value?) = some graph.edges := by
  let members : List (Text × Json) := [("nodes", .arr nodes), ("edges", .arr edges)]
  have nodesGiven : Json.member? members "nodes" = some (.arr nodes) := rfl
  have edgesGiven : Json.member? members "edges" = some (.arr edges) := rfl
  have usable : unusableType? (.obj members) = nodes.findSome? Node.unusableType? := by
    rw [unusableType?, nodesGiven]
  have isRead : (Graph.read .caller (.obj members)).value? =
      (nodes.mapM fun value => (Node.read .caller value).value?).bind fun nodes =>
        (edges.mapM fun value => (Edge.read .caller value).value?).map (Graph.mk nodes) := by
    simp only [Graph.read, value?_object, Json.members?, Option.bind_some, readMembers, value?_seq,
      value?_map, value?_fieldOr, nodesGiven, edgesGiven, Option.elim_some, value?_array, Json.items?]
    cases nodes.mapM fun value => (Node.read .caller value).value? <;> rfl
  rw [ofItems, load_eq_ok_iff, usable, isRead]
  refine and_congr_right fun _ => ?_
  simp only [Option.bind_eq_some_iff, Option.map_eq_some_iff]
  constructor
  · rintro ⟨nodes, nodesRead, edges, edgesRead, rfl⟩
    exact ⟨nodesRead, edgesRead⟩
  · rintro ⟨nodesRead, edgesRead⟩
    exact ⟨_, nodesRead, _, edgesRead, rfl⟩

/-- New items are taken over exactly if they can be read by themselves, and then they stand behind
what is there. -/
theorem edited_add_eq_ok_iff {nodes edges : List Json} :
    graph.edited (.add nodes edges) = .ok result ↔
      ∃ added, ofItems nodes edges = .ok added ∧
        ⟨graph.nodes ++ added.nodes, graph.edges ++ added.edges⟩ = result := by
  obtain ⟨resultNodes, resultEdges⟩ := result
  simp only [edited, ofCanvasItems, CanvasItem.map_toJson_append, ofItems_eq_ok_iff,
    Node.findSome?_unusableType?_append, mapM_value?_append Node.value?_read_toJson,
    mapM_value?_append Edge.value?_read_toJson, Option.map_eq_some_iff, Graph.mk.injEq]
  constructor
  · rintro ⟨usable, ⟨newNodes, nodesRead, rfl⟩, newEdges, edgesRead, rfl⟩
    exact ⟨⟨newNodes, newEdges⟩, ⟨usable, nodesRead, edgesRead⟩, rfl, rfl⟩
  · rintro ⟨added, ⟨usable, nodesRead, edgesRead⟩, rfl, rfl⟩
    exact ⟨usable, ⟨_, nodesRead, rfl⟩, _, edgesRead, rfl⟩

/-- A node comes from the palette exactly if its kind is offered there and its place can be read,
and then it stands behind what is there. -/
theorem edited_drop_eq_ok_iff {kind position : Json} :
    graph.edited (.drop id kind position) = .ok result ↔
      ∃ offered place, kind = .str (Kind.name offered) ∧ offered.isDroppable = true ∧
        Node.loadPlace position = .ok place ∧
        ⟨graph.nodes ++ [.fresh id offered place], graph.edges⟩ = result := by
  simp only [edited, bind_eq_ok_iff, Kind.load_eq_ok_iff, Node.create_eq_ok_iff]
  constructor
  · rintro ⟨offered, isKind, _, ⟨isOffered, place, isPlace, rfl⟩, made⟩
    exact ⟨offered, place, isKind, isOffered, isPlace, Except.ok.inj made⟩
  · rintro ⟨offered, place, isKind, isOffered, isPlace, rfl⟩
    exact ⟨offered, isKind, _, ⟨isOffered, place, isPlace, rfl⟩, rfl⟩

/-! ## What stays through a run of edits -/

/-- The look-up of a node does not see what stands behind it. -/
theorem node?_append (found : graph.node? id = some node) (nodes : List Node) (edges : List Edge) :
    node? ⟨graph.nodes ++ nodes, edges⟩ id = some node := by
  rw [node?] at found
  rw [node?, List.find?_append, found, Option.some_or]

theorem node?_filter_ne {other : Text} (distinct : other ≠ id) (edges : List Edge) :
    node? ⟨graph.nodes.filter (·.id ≠ other), edges⟩ id = graph.node? id := by
  rw [node?, node?, List.find?_filter]
  congr 1
  funext node
  by_cases same : node.id = id <;> simp [same, distinct.symm]

/-- An edit that keeps an id leaves the node that is found under it as it is, or tidies it. -/
theorem node?_edited (found : graph.node? id = some node) (keeps : edit.Keeps id)
    (done : graph.edited edit = .ok result) :
    result.node? id = some node ∨ result.node? id = some node.normalize := by
  cases edit with
  | load nodes edges => exact keeps.elim
  | initial => exact keeps.elim
  | add nodes edges =>
      obtain ⟨added, -, rfl⟩ := edited_add_eq_ok_iff.mp done
      exact .inl (node?_append found _ _)
  | drop other kind position =>
      obtain ⟨offered, place, -, -, -, rfl⟩ := edited_drop_eq_ok_iff.mp done
      exact .inl (node?_append found _ _)
  | removeNode other =>
      cases done
      exact .inl ((node?_filter_ne keeps _).trans found)
  | removeEdge place =>
      cases done
      exact .inl found
  | normalize =>
      cases done
      rw [node?_normalize, found]
      exact .inr rfl

theorem node?_after (found : graph.node? id = some node) (keeps : edit.Keeps id) :
    (graph.after edit).node? id = some node ∨ (graph.after edit).node? id = some node.normalize := by
  cases done : graph.edited edit with
  | error refusal =>
      rw [after, done]
      exact .inl found
  | ok result =>
      rw [after, done]
      exact node?_edited found keeps done

/-- After any run of edits that keep an id, the node that was found under it before the run is
found there still, tidied at most. -/
theorem node?_foldl_after {edits : List Edit} (found : graph.node? id = some node)
    (keep : ∀ edit ∈ edits, edit.Keeps id) :
    (edits.foldl after graph).node? id = some node ∨
      (edits.foldl after graph).node? id = some node.normalize := by
  induction edits generalizing graph node with
  | nil => exact .inl found
  | cons edit rest inductionHypothesis =>
      rw [List.forall_mem_cons] at keep
      rcases node?_after found keep.1 with same | tidied
      · exact inductionHypothesis same keep.2
      · -- What is tidy already is not changed by tidying it again.
        have later := inductionHypothesis tidied keep.2
        rw [Node.normalize_normalize, or_self] at later
        exact .inr later

theorem assignId_eq_ok_iff : graph.assignId id = .ok () ↔ graph.node? id = none := by
  rw [assignId]
  cases graph.node? id <;> simp

/-- A node that is there is given no other id, whatever is edited around it. -/
theorem assignId_foldl_after {edits : List Edit} (found : graph.node? id = some node)
    (keep : ∀ edit ∈ edits, edit.Keeps id) : (edits.foldl after graph).assignId id ≠ .ok () := by
  intro given
  have stays := node?_foldl_after found keep
  rw [assignId_eq_ok_iff.mp given] at stays
  simp at stays

end Graph

end Flowchart
