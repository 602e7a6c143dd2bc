import Flowchart.Proofs.Acceptance

/-!
A graph that is written is read back as it was, member by member: what is written of a value is
among what a reading accepts for it, and stands for that value.
-/

namespace Flowchart

open Reading

theorem PropertyType.value?_read_name (type : PropertyType) :
    (PropertyType.read (.str type.name)).value? = some type := by
  cases type <;> decide +kernel

@[simp]
theorem value?_statedType {members : List (Text × Json)} {kind : Kind}
    (stated : Json.member? members "type" = some (.str kind.name)) :
    (Payload.statedType members kind).value? = some () := by
  simp [Payload.statedType, stated, oneOf]

theorem InputProperty.value?_read_toJson (property : InputProperty) :
    (InputProperty.read .caller property.toJson).value? = some property := by
  simp [InputProperty.read, InputProperty.toJson, Json.members?, Json.member?, List.lookup_cons,
    PropertyType.value?_read_name]

theorem Binding.value?_read_toJson (binding : Binding) :
    (Binding.read .caller binding.toJson).value? = some binding := by
  simp [Binding.read, Binding.toJson, Json.members?, Json.member?, List.lookup_cons]

theorem BranchRow.value?_read_toJson (row : BranchRow) :
    (BranchRow.read .caller row.toJson).value? = some row := by
  simp [BranchRow.read, BranchRow.toJson, Json.members?, Json.member?, List.lookup_cons]

/-- The members of a written payload. -/
def Payload.membersToJson (payload : Payload) : List (Text × Json) :=
  ("type", .str payload.kind.name) ::
    match payload with
    | .input properties => [("properties", .arr (properties.map InputProperty.toJson))]
    | .action name bindings =>
        [("actionName", .ofText? name), ("inputs", .arr (bindings.map Binding.toJson))]
    | .condition rows => [("conditions", .arr (rows.map BranchRow.toJson))]

theorem Payload.toJson_eq (payload : Payload) : payload.toJson = .obj payload.membersToJson := by
  cases payload <;> rfl

theorem Payload.member?_type (payload : Payload) :
    Json.member? payload.membersToJson "type" = some (.str payload.kind.name) := by
  simp [membersToJson, Json.member?]

theorem Payload.value?_readMembers (payload : Payload) :
    (readMembers .caller payload.membersToJson payload.kind).value? = some payload := by
  have stated := value?_statedType payload.member?_type
  cases payload with
  | input properties =>
      have written : Json.member? (input properties).membersToJson "properties" =
          some (.arr (properties.map InputProperty.toJson)) := by
        simp [membersToJson, Json.member?, List.lookup_cons]
      simp only [kind] at stated
      simp only [kind, readMembers, readInput, value?_map, value?_seq, stated, value?_fieldOr,
        written, Option.elim_some, value?_array_map InputProperty.value?_read_toJson]
      rfl
  | action name bindings =>
      have writtenName : Json.member? (action name bindings).membersToJson "actionName" =
          some (.ofText? name) := by
        simp [membersToJson, Json.member?, List.lookup_cons]
      have written : Json.member? (action name bindings).membersToJson "inputs" =
          some (.arr (bindings.map Binding.toJson)) := by
        simp [membersToJson, Json.member?, List.lookup_cons]
      simp only [kind] at stated
      simp only [kind, readMembers, value?_map, value?_seq, stated, value?_fieldOr, spelling,
        writtenName, written, Option.elim_some, Option.isNone_some, Bool.false_and,
        Bool.false_eq_true, if_false, value?_nullable_text,
        value?_array_map Binding.value?_read_toJson]
      rfl
  | condition rows =>
      have written : Json.member? (condition rows).membersToJson "conditions" =
          some (.arr (rows.map BranchRow.toJson)) := by
        simp [membersToJson, Json.member?, List.lookup_cons]
      simp only [kind] at stated
      simp only [kind, readMembers, value?_map, value?_seq, stated, value?_fieldOr, written,
        Option.elim_some, value?_array_map BranchRow.value?_read_toJson]
      rfl

theorem Payload.value?_read_toJson (payload : Payload) :
    (Payload.read .caller payload.toJson).value? = some payload := by
  rw [toJson_eq]
  simp only [Payload.read, value?_object, Json.members?, Option.bind_some, member?_type,
    Kind.ofName?_name, value?_under]
  exact value?_readMembers payload

/-- The members of a written node. -/
def Node.membersToJson (node : Node) : List (Text × Json) :=
  [("id", .str node.id), ("type", .ofText? node.canvasType),
    ("position", .obj (node.position.entries.map fun entry => (entry.1, .float entry.2))),
    ("data", node.payload.toJson)]

theorem Node.member?_data (node : Node) :
    Json.member? node.membersToJson "data" = some (.obj node.payload.membersToJson) := by
  simp [membersToJson, Json.member?, List.lookup_cons, Payload.toJson_eq]

/-- A written payload states its type, so the canvas type adds none. -/
theorem Node.tagPayload_membersToJson (node : Node) :
    tagPayload node.membersToJson = node.membersToJson := by
  have stated := node.payload.member?_type
  rw [tagPayload, node.member?_data]
  cases registeredKind? node.membersToJson with
  | none => rfl
  | some kind => simp [stated]

theorem Node.value?_read_toJson (node : Node) :
    (Node.read .caller node.toJson).value? = some node := by
  have placed := value?_keyed_map value?_number node.position
  change (readTagged .caller node.membersToJson).value? = some node
  rw [readTagged, tagPayload_membersToJson, readMembers]
  simp [-value?_keyed, membersToJson, Json.member?, List.lookup_cons, Payload.value?_read_toJson, placed]

theorem Edge.value?_read_toJson (edge : Edge) :
    (Edge.read .caller edge.toJson).value? = some edge := by
  simp [Edge.read, Edge.readMembers, Edge.toJson, spelling, Json.members?, Json.member?,
    List.lookup_cons]

/-- A written canvas type is a text or null. -/
theorem Node.unusableType?_toJson (node : Node) : Node.unusableType? node.toJson = none := by
  cases canvasType : node.canvasType <;>
    simp [Node.unusableType?, Node.toJson, Json.member?, List.lookup_cons, canvasType, Json.ofText?]

namespace Graph

theorem value?_read_toJson (graph : Graph) :
    (Graph.read .caller graph.toJson).value? = some graph := by
  have nodes := value?_array_map Node.value?_read_toJson Source.caller.notCollection graph.nodes
  have edges := value?_array_map Edge.value?_read_toJson Source.caller.notCollection graph.edges
  simp [-value?_array, Graph.read, readMembers, toJson, Json.members?, Json.member?, List.lookup_cons,
    nodes, edges]

theorem unusableType?_toJson (graph : Graph) : unusableType? graph.toJson = none := by
  simp [unusableType?, toJson, Json.member?, Node.unusableType?_toJson]

theorem load_toJson (graph : Graph) : load graph.toJson = .ok graph :=
  load_eq_ok_iff.mpr ⟨graph.unusableType?_toJson, graph.value?_read_toJson⟩

theorem ofCanvasItems_models (graph : Graph) :
    ofCanvasItems (graph.nodes.map .model) (graph.edges.map .model) = .ok graph := by
  have nodes : (graph.nodes.map CanvasItem.model).map (CanvasItem.toJson Node.toJson) =
      graph.nodes.map Node.toJson := List.map_map
  have edges : (graph.edges.map CanvasItem.model).map (CanvasItem.toJson Edge.toJson) =
      graph.edges.map Edge.toJson := List.map_map
  rw [ofCanvasItems, nodes, edges]
  exact graph.load_toJson

/-- A graph is read back from what is written for it, whether it is written as a whole or its nodes
and edges are handed over as they are; so reading what is written of something read changes nothing,
and what could not be read is not read the second time either. -/
theorem load_roundTrip (graph : Graph) :
    load graph.toJson = .ok graph ∧
    ofCanvasItems (graph.nodes.map .model) (graph.edges.map .model) = .ok graph ∧
    ∀ value, (load value).bind (fun read => load read.toJson) = load value := by
  refine ⟨graph.load_toJson, graph.ofCanvasItems_models, ?_⟩
  intro value
  cases load value with
  | error refusal => rfl
  | ok read => exact read.load_toJson

end Graph

end Flowchart
