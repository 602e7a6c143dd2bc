import Flowchart.Json.Sendable
import Flowchart.Proofs.Acceptance
import Flowchart.Service.Body

/-!
What is read of a value in which no surrogate stands on its own has none in its texts either. Every
reading has a law of its own, from single values to the body of a request.
-/

namespace Flowchart

/-! ## Surrogates in the parts of a graph -/

@[simp]
theorem Kind.isUnicode_name (kind : Kind) : kind.name.isUnicode = true := by
  cases kind <;> rfl

@[simp]
theorem PropertyType.isUnicode_name (type : PropertyType) : type.name.isUnicode = true := by
  cases type <;> rfl

theorem InputProperty.isUnicode_iff {property : InputProperty} :
    property.toJson.isUnicode = true ↔
      property.id.isUnicode = true ∧ property.name.isUnicode = true := by
  simp [toJson, Json.isUnicode]

theorem Binding.isUnicode_iff {binding : Binding} :
    binding.toJson.isUnicode = true ↔
      binding.id.isUnicode = true ∧ binding.parameter.isUnicode = true ∧
        binding.expression.isUnicode = true := by
  simp [toJson, Json.isUnicode]

theorem BranchRow.isUnicode_iff {row : BranchRow} :
    row.toJson.isUnicode = true ↔
      row.id.isUnicode = true ∧ row.label.isUnicode = true ∧ row.expression.isUnicode = true := by
  simp [toJson, Json.isUnicode]

namespace Payload

theorem isUnicode_input_iff {properties : List InputProperty} :
    (input properties).toJson.isUnicode = true ↔
      ∀ property ∈ properties, property.toJson.isUnicode = true := by
  simp [toJson, Json.isUnicode]

theorem isUnicode_action_iff {name : Option Text} {bindings : List Binding} :
    (action name bindings).toJson.isUnicode = true ↔
      name.all Text.isUnicode = true ∧ ∀ binding ∈ bindings, binding.toJson.isUnicode = true := by
  simp [toJson, Json.isUnicode]

theorem isUnicode_condition_iff {rows : List BranchRow} :
    (condition rows).toJson.isUnicode = true ↔ ∀ row ∈ rows, row.toJson.isUnicode = true := by
  simp [toJson, Json.isUnicode]

end Payload

theorem Node.isUnicode_iff {node : Node} :
    node.toJson.isUnicode = true ↔
      node.id.isUnicode = true ∧ node.canvasType.all Text.isUnicode = true ∧
        (∀ entry ∈ node.position.entries, entry.1.isUnicode = true) ∧
        node.payload.toJson.isUnicode = true := by
  simp [toJson, Json.isUnicode]

theorem Edge.isUnicode_iff {edge : Edge} :
    edge.toJson.isUnicode = true ↔
      edge.id.all Text.isUnicode = true ∧ edge.source.isUnicode = true ∧
        edge.target.isUnicode = true ∧ edge.sourceHandle.all Text.isUnicode = true ∧
        edge.targetHandle.all Text.isUnicode = true := by
  simp [toJson, Json.isUnicode]

theorem Graph.isUnicode_iff {graph : Graph} :
    graph.toJson.isUnicode = true ↔
      (∀ node ∈ graph.nodes, node.toJson.isUnicode = true) ∧
        ∀ edge ∈ graph.edges, edge.toJson.isUnicode = true := by
  simp [toJson, Json.isUnicode]

namespace Reading

/-- What is accepted of a value without surrogates has a property. -/
def Yields {α : Type} (read : Json → Reading α) (holds : α → Prop) : Prop :=
  ∀ value result, value.isUnicode = true → (read value).value? = some result → holds result

theorem yields_text : Yields text fun content => content.isUnicode = true := by
  intro value content unicode isRead
  cases value with
  | str content =>
      cases isRead
      exact unicode
  | _ => cases isRead

theorem yields_nullable_text : Yields (nullable text) fun content => content.all Text.isUnicode := by
  intro value content unicode isRead
  cases value with
  | null =>
      cases isRead
      rfl
  | str content =>
      cases isRead
      exact unicode
  | _ => cases isRead

variable {α : Type} {read : Json → Reading α} {holds : α → Prop}

/-! ## Members -/

section

variable {members : List (Text × Json)} {name : Text} {result : α}

theorem Yields.field (yields : Yields read holds) (unicode : (Json.obj members).isUnicode = true)
    (isRead : (field members name read).value? = some result) : holds result := by
  rw [value?_field, Option.bind_eq_some_iff] at isRead
  obtain ⟨value, found, accepted⟩ := isRead
  exact yields value result (Json.passes_of_member? unicode found) accepted

theorem Yields.fieldOr (yields : Yields read holds) {default : α} (otherwise : holds default)
    (unicode : (Json.obj members).isUnicode = true)
    (isRead : (fieldOr members name default read).value? = some result) : holds result := by
  rw [value?_fieldOr] at isRead
  cases found : Json.member? members name with
  | none =>
      rw [found] at isRead
      cases isRead
      exact otherwise
  | some value =>
      rw [found] at isRead
      exact yields value result (Json.passes_of_member? unicode found) isRead

end

/-! ## Containers -/

theorem forall_of_mapM_eq_some {β : Type} {step : β → Option α} {values : List β}
    {results : List α} (each : ∀ value ∈ values, ∀ result, step value = some result → holds result)
    (mapped : values.mapM step = some results) : ∀ result ∈ results, holds result := by
  induction values generalizing results with
  | nil =>
      cases mapped
      exact List.forall_mem_nil _
  | cons value rest inductionHypothesis =>
      rw [List.forall_mem_cons] at each
      simp only [List.mapM_cons, Option.bind_eq_bind, Option.bind_eq_some_iff] at mapped
      obtain ⟨first, isFirst, later, areLater, whole⟩ := mapped
      cases whole
      exact List.forall_mem_cons.mpr ⟨each.1 first isFirst, inductionHypothesis each.2 areLater⟩

theorem Yields.array (yields : Yields read holds) (otherwise : Fault) :
    Yields (array otherwise read) fun results => ∀ result ∈ results, holds result := by
  intro value results unicode isRead
  cases value with
  | arr values =>
      rw [value?_array, Json.items?, Option.bind_some] at isRead
      rw [Json.isUnicode, Json.passes_arr, List.all_eq_true] at unicode
      refine forall_of_mapM_eq_some ?_ isRead
      intro value member result accepted
      exact yields value result (unicode value member) accepted
  | _ => cases isRead

/-- The names of a map come from the object that it is read of. -/
theorem yields_keyed (read : Json → Reading α) :
    Yields (keyed read) fun map => ∀ entry ∈ map.entries, entry.1.isUnicode = true := by
  intro value map unicode isRead
  cases value with
  | obj members =>
      simp only [value?_keyed, Json.members?, Option.bind_some, Option.map_eq_some_iff] at isRead
      obtain ⟨entries, areRead, rfl⟩ := isRead
      simp only [Json.isUnicode, Json.passes_obj, List.all_eq_true, Bool.and_eq_true] at unicode
      have each : ∀ entry ∈ entries, entry.1.isUnicode = true := by
        refine forall_of_mapM_eq_some ?_ areRead
        intro member listed entry accepted
        obtain ⟨value, -, rfl⟩ := Option.map_eq_some_iff.mp accepted
        exact (unicode member listed).1
      intro entry member
      exact each entry (Keyed.mem_of_mem_entries_ofList member)
  | _ => cases isRead

theorem Yields.object {read : List (Text × Json) → Reading α} {holds : α → Prop}
    (each : ∀ members result, (Json.obj members).isUnicode = true →
      (read members).value? = some result → holds result)
    (otherwise : Fault) : Yields (object otherwise read) holds := by
  intro value result unicode isRead
  cases value with
  | obj members => exact each members result unicode isRead
  | _ => cases isRead

end Reading

open Reading

/-! ## Rows -/

theorem InputProperty.yields_read (source : Source) :
    Yields (InputProperty.read source) fun property => property.toJson.isUnicode = true := by
  apply Yields.object
  intro members property unicode isRead
  simp only [value?_seq, value?_map, Option.bind_eq_some_iff, Option.map_eq_some_iff] at isRead
  obtain ⟨_, ⟨_, ⟨_, ⟨id, idRead, rfl⟩, name, nameRead, rfl⟩, type, -, rfl⟩, required, -, rfl⟩ :=
    isRead
  exact isUnicode_iff.mpr
    ⟨yields_text.fieldOr (by simp) unicode idRead, yields_text.field unicode nameRead⟩

theorem Binding.yields_read (source : Source) :
    Yields (Binding.read source) fun binding => binding.toJson.isUnicode = true := by
  apply Yields.object
  intro members binding unicode isRead
  simp only [value?_seq, value?_map, Option.bind_eq_some_iff, Option.map_eq_some_iff] at isRead
  obtain ⟨_, ⟨_, ⟨id, idRead, rfl⟩, parameter, parameterRead, rfl⟩, expression, expressionRead,
    rfl⟩ := isRead
  exact isUnicode_iff.mpr ⟨yields_text.fieldOr (by simp) unicode idRead,
    yields_text.field unicode parameterRead, yields_text.fieldOr (by simp) unicode expressionRead⟩

theorem BranchRow.yields_read (source : Source) :
    Yields (BranchRow.read source) fun row => row.toJson.isUnicode = true := by
  apply Yields.object
  intro members row unicode isRead
  simp only [value?_seq, value?_map, Option.bind_eq_some_iff, Option.map_eq_some_iff] at isRead
  obtain ⟨_, ⟨_, ⟨id, idRead, rfl⟩, label, labelRead, rfl⟩, expression, expressionRead, rfl⟩ :=
    isRead
  exact isUnicode_iff.mpr ⟨yields_text.field unicode idRead,
    yields_text.fieldOr (by simp) unicode labelRead,
    yields_text.fieldOr (by simp) unicode expressionRead⟩

/-! ## Payloads and nodes -/

namespace Payload

variable {members : List (Text × Json)} {payload : Payload}

theorem isUnicode_of_readMembers {source : Source} {kind : Kind}
    (unicode : (Json.obj members).isUnicode = true)
    (isRead : (readMembers source members kind).value? = some payload) :
    payload.toJson.isUnicode = true := by
  cases kind with
  | input =>
      simp only [readMembers, readInput, value?_seq, value?_map, Option.bind_eq_some_iff,
        Option.map_eq_some_iff] at isRead
      obtain ⟨_, ⟨_, ⟨_, -, rfl⟩, properties, propertiesRead, rfl⟩, rfl⟩ := isRead
      exact isUnicode_input_iff.mpr
        (((InputProperty.yields_read source).array _).fieldOr (List.forall_mem_nil _) unicode
          propertiesRead)
  | action =>
      simp only [readMembers, value?_seq, value?_map, Option.bind_eq_some_iff,
        Option.map_eq_some_iff] at isRead
      obtain ⟨_, ⟨_, ⟨_, -, rfl⟩, name, nameRead, rfl⟩, bindings, bindingsRead, rfl⟩ := isRead
      exact isUnicode_action_iff.mpr ⟨yields_nullable_text.fieldOr rfl unicode nameRead,
        ((Binding.yields_read source).array _).fieldOr (List.forall_mem_nil _) unicode bindingsRead⟩
  | condition =>
      simp only [readMembers, value?_seq, value?_map, Option.bind_eq_some_iff,
        Option.map_eq_some_iff] at isRead
      obtain ⟨_, ⟨_, -, rfl⟩, rows, rowsRead, rfl⟩ := isRead
      exact isUnicode_condition_iff.mpr
        (((BranchRow.yields_read source).array _).fieldOr (List.forall_mem_nil _) unicode rowsRead)

theorem yields_read (source : Source) :
    Yields (Payload.read source) fun payload => payload.toJson.isUnicode = true := by
  apply Yields.object
  intro members payload unicode isRead
  split at isRead
  · cases isRead
  · dsimp only at isRead
    split at isRead
    · rw [value?_under] at isRead
      exact isUnicode_of_readMembers unicode isRead
    · cases isRead

end Payload

namespace Node

variable {members : List (Text × Json)}

/-- The type that is given to a payload brings no surrogate with it. -/
theorem isUnicode_tagPayload (unicode : (Json.obj members).isUnicode = true) :
    (Json.obj (tagPayload members)).isUnicode = true := by
  unfold tagPayload
  split
  · next payload kind found _ =>
    split
    · exact unicode
    · have payloadUnicode : (Json.obj payload).isUnicode = true :=
        Json.passes_of_member? unicode found
      simp only [Json.isUnicode, Json.passes_obj, List.all_eq_true] at unicode payloadUnicode ⊢
      intro member listed
      rcases mem_of_mem_putEntry listed with rfl | listed
      · simpa using payloadUnicode
      · exact unicode member listed
  · exact unicode

theorem yields_read (source : Source) :
    Yields (Node.read source) fun node => node.toJson.isUnicode = true := by
  apply Yields.object
  intro members node unicode isRead
  simp only [readTagged, readMembers, value?_seq, value?_map, Option.bind_eq_some_iff,
    Option.map_eq_some_iff] at isRead
  obtain ⟨_, ⟨_, ⟨_, ⟨id, idRead, rfl⟩, type, typeRead, rfl⟩, position, positionRead, rfl⟩, payload,
    payloadRead, rfl⟩ := isRead
  have tagged := isUnicode_tagPayload unicode
  exact isUnicode_iff.mpr ⟨yields_text.field tagged idRead,
    yields_nullable_text.fieldOr rfl tagged typeRead,
    (yields_keyed number).fieldOr (by decide) tagged positionRead,
    (Payload.yields_read source).field tagged payloadRead⟩

end Node

theorem Edge.yields_read (source : Source) :
    Yields (Edge.read source) fun edge => edge.toJson.isUnicode = true := by
  apply Yields.object
  intro members edge unicode isRead
  simp only [readMembers, value?_seq, value?_map, Option.bind_eq_some_iff,
    Option.map_eq_some_iff] at isRead
  obtain ⟨_, ⟨_, ⟨_, ⟨_, ⟨id, idRead, rfl⟩, start, startRead, rfl⟩, target, targetRead, rfl⟩,
    sourceHandle, sourceHandleRead, rfl⟩, targetHandle, targetHandleRead, rfl⟩ := isRead
  exact isUnicode_iff.mpr ⟨yields_nullable_text.fieldOr rfl unicode idRead,
    yields_text.field unicode startRead, yields_text.field unicode targetRead,
    yields_nullable_text.fieldOr rfl unicode sourceHandleRead,
    yields_nullable_text.fieldOr rfl unicode targetHandleRead⟩

/-! ## Graphs and requests -/

theorem Graph.isUnicode_of_readMembers {source : Source} {members : List (Text × Json)}
    {graph : Graph} (unicode : (Json.obj members).isUnicode = true)
    (isRead : (readMembers source members).value? = some graph) :
    graph.toJson.isUnicode = true := by
  simp only [readMembers, value?_seq, value?_map, Option.bind_eq_some_iff, Option.map_eq_some_iff] at isRead
  obtain ⟨_, ⟨nodes, nodesRead, rfl⟩, edges, edgesRead, rfl⟩ := isRead
  exact isUnicode_iff.mpr
    ⟨((Node.yields_read source).array _).fieldOr (List.forall_mem_nil _) unicode nodesRead,
      ((Edge.yields_read source).array _).fieldOr (List.forall_mem_nil _) unicode edgesRead⟩

/-- No surrogate stands on its own in what a request asks for. -/
structure FlowRequest.IsUnicode (request : FlowRequest) : Prop where
  graph : request.graph.toJson.isUnicode = true
  summary : request.summary.isUnicode = true
  description : request.description.isUnicode = true

theorem FlowRequest.yields_read : Yields FlowRequest.read FlowRequest.IsUnicode := by
  apply Yields.object
  intro members request unicode isRead
  simp only [value?_seq, value?_map, Option.bind_eq_some_iff, Option.map_eq_some_iff] at isRead
  obtain ⟨_, ⟨_, ⟨graph, graphRead, rfl⟩, summary, summaryRead, rfl⟩, description, descriptionRead,
    rfl⟩ := isRead
  exact ⟨Graph.isUnicode_of_readMembers unicode graphRead,
    yields_text.fieldOr (by simp) unicode summaryRead, yields_text.fieldOr (by simp) unicode descriptionRead⟩

end Flowchart
