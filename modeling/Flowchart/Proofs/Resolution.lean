import Flowchart.Proofs.GraphRoundTrip
import Flowchart.Proofs.Malformed

/-!
The kind that a payload is taken for. It is the one that the payload states, else the one that the
node's canvas type is registered for; the type that a kind of payload would have by default never
decides. Readings of a node are told with the kind found first, without changing the node.
-/

namespace Flowchart

open Reading

/-! ## Members by what is looked up -/

namespace Reading

variable {α : Type} {members others : List (Text × Json)} {name : Text}

theorem field_congr (same : Json.member? members name = Json.member? others name)
    (read : Json → Reading α) : field members name read = field others name read := by
  rw [field, field, same]

theorem fieldOr_congr (same : Json.member? members name = Json.member? others name) (default : α)
    (read : Json → Reading α) :
    fieldOr members name default read = fieldOr others name default read := by
  rw [fieldOr, fieldOr, same]

theorem spelling_congr {first second : Text}
    (sameFirst : Json.member? members first = Json.member? others first)
    (sameSecond : Json.member? members second = Json.member? others second) :
    spelling members first second = spelling others first second := by
  rw [spelling, spelling, sameFirst, sameSecond]

end Reading

namespace Json

@[simp]
theorem member?_putEntry_self (name : Text) (value : Json) (members : List (Text × Json)) :
    member? (putEntry name value members) name = some value := by
  rw [member?, lookup_putEntry, if_pos rfl]

theorem member?_putEntry_of_ne {name asked : Text} (other : asked ≠ name) (value : Json)
    (members : List (Text × Json)) :
    member? (putEntry name value members) asked = member? members asked := by
  rw [member?, lookup_putEntry, if_neg other, member?]

/-- A member that is not there is put at the end. -/
theorem putEntry_of_member?_eq_none {name : Text} {members : List (Text × Json)}
    (absent : member? members name = none) (value : Json) :
    putEntry name value members = members ++ [(name, value)] :=
  putEntry_of_not_mem (lookup_eq_none_iff_not_mem.mp absent) value

end Json

/-! ## Payloads -/

namespace Payload

variable {source : Source} {members : List (Text × Json)} {kind : Kind}

/-- The kind of a payload where some kind may be registered for the canvas type of its node. -/
def resolvedKind? (registered? : Option Kind) (members : List (Text × Json)) : Option Kind :=
  match Json.member? members "type" with
  | none => registered?
  | some (.str name) => Kind.ofName? name
  | some _ => none

/-- Reads a payload that may leave its type to the node's canvas type. -/
def readAs (source : Source) (registered? : Option Kind) : Json → Reading Payload :=
  object .notMembers fun members =>
    match resolvedKind? registered? members with
    | some kind => (readMembers source members kind).under (.variant kind.name)
    | none =>
        match Json.member? members "type" with
        | none => fault .noTag
        | some tag => fault (.unknownTag tag.cited (Kind.all.map Kind.name))

theorem read_eq_readAs (value : Json) : read source value = readAs source none value := by
  cases value with
  | obj members =>
      cases stated : Json.member? members "type" with
      | none => simp only [read, readAs, resolvedKind?, object, stated]
      | some tag =>
          simp only [read, readAs, resolvedKind?, object, stated]
          cases tag with
          | str name => cases Kind.ofName? name <;> rfl
          | _ => rfl
  | _ => rfl

/-- A payload that states its type does not depend on the node's canvas type. -/
theorem readAs_of_stated {tag : Json} (stated : Json.member? members "type" = some tag)
    (registered? : Option Kind) :
    readAs source registered? (.obj members) = read source (.obj members) := by
  rw [read_eq_readAs]
  cases tag <;> simp only [readAs, resolvedKind?, object, stated]

/-- A payload without a type is read as of the kind that is registered. -/
theorem readAs_of_absent (absent : Json.member? members "type" = none) (kind : Kind) :
    readAs source (some kind) (.obj members) =
      (readMembers source members kind).under (.variant kind.name) := by
  simp only [readAs, resolvedKind?, object, absent]

theorem read_of_stated (stated : Json.member? members "type" = some (.str kind.name)) :
    read source (.obj members) =
      (readMembers source members kind).under (.variant kind.name) := by
  simp only [read, object, stated, Kind.ofName?_name]

theorem readMembers_putType (absent : Json.member? members "type" = none) :
    readMembers source (putEntry "type" (.str kind.name) members) kind =
      readMembers source members kind := by
  have others (name : Text) (other : name ≠ "type") :=
    Json.member?_putEntry_of_ne other (.str kind.name) members
  have stated : statedType (putEntry "type" (.str kind.name) members) kind =
      statedType members kind := by
    simp [statedType, fieldOr, absent, oneOf, Reading.under]
  cases kind with
  | input =>
      rw [readMembers, readMembers, readInput, readInput, stated,
        fieldOr_congr (others "properties" (by decide))]
  | action =>
      have first := others "actionName" (by decide)
      have second := others "action_name" (by decide)
      have spelled := others (spelling members "actionName" "action_name")
        (by unfold spelling; split <;> decide)
      rw [readMembers, readMembers, stated, spelling_congr first second, fieldOr_congr spelled,
        fieldOr_congr (others "inputs" (by decide))]
  | condition =>
      rw [readMembers, readMembers, stated, fieldOr_congr (others "conditions" (by decide))]

theorem resolvedKind?_eq_some_iff {registered? : Option Kind} :
    resolvedKind? registered? members = some kind ↔
      Json.member? members "type" = some (.str kind.name) ∨
      Json.member? members "type" = none ∧ registered? = some kind := by
  cases stated : Json.member? members "type" with
  | none => simp [resolvedKind?, stated]
  | some tag => cases tag <;> simp [resolvedKind?, stated, Kind.ofName?_eq_some_iff]

theorem value?_readAs (registered? : Option Kind) (members : List (Text × Json)) :
    (readAs source registered? (.obj members)).value? =
      (resolvedKind? registered? members).bind fun kind =>
        (readMembers source members kind).value? := by
  cases resolved : resolvedKind? registered? members with
  | some kind => simp only [readAs, object, resolved, value?_under, Option.bind_some]
  | none =>
      simp only [readAs, object, resolved, Option.bind_none]
      split <;> rfl

/-- A payload is accepted only as of its kind. -/
theorem exists_of_readAs {registered? : Option Kind} {value : Json} {payload : Payload}
    (isRead : (readAs source registered? value).value? = some payload) :
    ∃ members kind, value = .obj members ∧ resolvedKind? registered? members = some kind ∧
      (readMembers source members kind).value? = some payload := by
  cases value with
  | obj members =>
      rw [value?_readAs, Option.bind_eq_some_iff] at isRead
      obtain ⟨kind, resolved, isPayload⟩ := isRead
      exact ⟨members, kind, rfl, resolved, isPayload⟩
  | _ => cases isRead

theorem kind_of_readMembers {payload : Payload}
    (isRead : (readMembers source members kind).value? = some payload) : payload.kind = kind := by
  cases kind <;>
    simp only [readMembers, value?_seq, value?_map, Option.bind_eq_some_iff,
      Option.map_eq_some_iff] at isRead
  case input =>
    obtain ⟨properties, -, rfl⟩ := isRead
    rfl
  case action =>
    obtain ⟨_, ⟨_, ⟨_, -, rfl⟩, name, -, rfl⟩, bindings, -, rfl⟩ := isRead
    rfl
  case condition =>
    obtain ⟨_, ⟨_, -, rfl⟩, rows, -, rfl⟩ := isRead
    rfl

end Payload

/-! ## Nodes -/

namespace Node

variable {source : Source} {members payload : List (Text × Json)} {kind : Kind}

/-- The members of a node whose payload is made to state a kind. -/
def stating (kind : Kind) (payload members : List (Text × Json)) : List (Text × Json) :=
  putEntry "data" (.obj (putEntry "type" (.str kind.name) payload)) members

theorem tagPayload_of_stated {tag : Json} (data : Json.member? members "data" = some (.obj payload))
    (stated : Json.member? payload "type" = some tag) : tagPayload members = members := by
  cases registered : registeredKind? members <;> simp [tagPayload, data, registered, stated]

theorem tagPayload_of_absent (data : Json.member? members "data" = some (.obj payload))
    (absent : Json.member? payload "type" = none)
    (registered : registeredKind? members = some kind) :
    tagPayload members = stating kind payload members := by
  simp [tagPayload, data, registered, absent, stating, Json.putEntry_of_member?_eq_none absent]

/-- Only a payload is given a type. -/
theorem member?_tagPayload {name : Text} (other : name ≠ "data") :
    Json.member? (tagPayload members) name = Json.member? members name := by
  unfold tagPayload
  split
  · split
    · rfl
    · exact Json.member?_putEntry_of_ne other _ members
  · rfl

theorem field_data_tagPayload :
    field (tagPayload members) "data" (Payload.read source) =
      field members "data" (Payload.readAs source (registeredKind? members)) := by
  cases data : Json.member? members "data" with
  | none => simp only [tagPayload, field, data]
  | some value =>
      cases value with
      | obj payload =>
          cases stated : Json.member? payload "type" with
          | some tag =>
              rw [tagPayload_of_stated data stated, field, field, data]
              exact congrArg (under _) (Payload.readAs_of_stated stated _).symm
          | none =>
              cases registered : registeredKind? members with
              | none =>
                  simp only [tagPayload, data, registered, field]
                  exact congrArg (under _) (Payload.read_eq_readAs _)
              | some kind =>
                  rw [tagPayload_of_absent data stated registered, stating, field, field, data,
                    Json.member?_putEntry_self]
                  apply congrArg (under _)
                  rw [Payload.read_of_stated (Json.member?_putEntry_self "type" _ payload),
                    Payload.readMembers_putType stated, Payload.readAs_of_absent stated]
      | _ =>
          simp only [tagPayload, data, field]
          rfl

/-- Reading a node whose payload need not state its type, told without giving the payload one. -/
theorem readTagged_eq (source : Source) (members : List (Text × Json)) :
    readTagged source members =
      Node.mk <$> field members "id" text
        <*> fieldOr members "type" none (nullable text)
        <*> fieldOr members "position" origin (keyed number)
        <*> field members "data" (Payload.readAs source (registeredKind? members)) := by
  rw [readTagged, readMembers, field_data_tagPayload,
    field_congr (member?_tagPayload (by decide)), fieldOr_congr (member?_tagPayload (by decide)),
    fieldOr_congr (member?_tagPayload (by decide))]

theorem registeredKind?_eq_some_iff :
    registeredKind? members = some kind ↔
      Json.member? members "type" = some (.str kind.canvasType) := by
  unfold registeredKind?
  split
  · next canvasType typed => simp [typed, Kind.ofCanvasType?_eq_some_iff]
  · next untyped => simpa using untyped kind.canvasType

/-- A node is accepted only with an object for its payload, and as of the kind found for it. -/
theorem exists_of_readTagged {node : Node}
    (isRead : (readTagged source members).value? = some node) :
    ∃ payload kind, Json.member? members "data" = some (.obj payload) ∧
      Payload.resolvedKind? (registeredKind? members) payload = some kind ∧
      (Payload.readMembers source payload kind).value? = some node.payload := by
  simp only [readTagged_eq, value?_seq, value?_map, value?_field, Option.bind_eq_some_iff,
    Option.map_eq_some_iff] at isRead
  obtain ⟨_, ⟨_, ⟨_, ⟨id, -, rfl⟩, canvasType, -, rfl⟩, position, -, rfl⟩, result,
    ⟨value, data, isPayload⟩, rfl⟩ := isRead
  obtain ⟨payload, kind, rfl, resolved, isResult⟩ := Payload.exists_of_readAs isPayload
  exact ⟨payload, kind, data, resolved, isResult⟩

/-- The canvas type is left out, null or a text. -/
def HasPlainType (members : List (Text × Json)) : Prop :=
  Json.member? members "type" = none ∨ Json.member? members "type" = some .null ∨
    ∃ canvasType, Json.member? members "type" = some (.str canvasType)

theorem HasPlainType.usable (plain : HasPlainType members) :
    unusableType? (.obj members) = none := by
  rcases plain with typed | typed | ⟨canvasType, typed⟩ <;> simp [unusableType?, typed]

theorem HasPlainType.load_eq (plain : HasPlainType members) :
    load (.obj members) = (readTagged .caller members).toExcept.mapError (.invalid "FlowNode") := by
  simp only [load, plain.usable]
  rfl

theorem HasPlainType.exists_accepted (plain : HasPlainType members) :
    ∃ canvasType, fieldOr members "type" none (nullable text) = accepted canvasType := by
  rcases plain with typed | typed | ⟨canvasType, typed⟩
  · exact ⟨none, by rw [fieldOr, typed]⟩
  · exact ⟨none, by rw [fieldOr, typed]; rfl⟩
  · exact ⟨some canvasType, by rw [fieldOr, typed]; rfl⟩

/-- Stating the kind that is registered for the canvas type changes nothing. -/
theorem load_stating (plain : HasPlainType members)
    (data : Json.member? members "data" = some (.obj payload))
    (absent : Json.member? payload "type" = none)
    (registered : Json.member? members "type" = some (.str kind.canvasType)) :
    load (.obj (stating kind payload members)) = load (.obj members) := by
  have sameType : Json.member? (stating kind payload members) "type" =
      Json.member? members "type" :=
    Json.member?_putEntry_of_ne (by decide) _ members
  have stillPlain : HasPlainType (stating kind payload members) := by
    rwa [HasPlainType, sameType]
  have unchanged : tagPayload (stating kind payload members) = stating kind payload members :=
    tagPayload_of_stated (Json.member?_putEntry_self "data" _ members)
      (Json.member?_putEntry_self "type" _ payload)
  rw [plain.load_eq, stillPlain.load_eq, readTagged, readTagged, unchanged,
    tagPayload_of_absent data absent (registeredKind?_eq_some_iff.mpr registered)]

theorem readTagged_putType {tag : Json} (plain : HasPlainType members)
    (data : Json.member? members "data" = some (.obj payload))
    (stated : Json.member? payload "type" = some tag) (canvasType : Text) :
    readTagged source (putEntry "type" (.str canvasType) members) =
      (fun node => { node with canvasType := some canvasType }) <$> readTagged source members := by
  obtain ⟨before, plainRead⟩ := plain.exists_accepted
  have newRead : fieldOr (putEntry "type" (.str canvasType) members) "type" none (nullable text) =
      accepted (some canvasType) := by
    rw [fieldOr, Json.member?_putEntry_self]
    rfl
  have others (name : Text) (other : name ≠ "type") :=
    Json.member?_putEntry_of_ne other (.str canvasType) members
  have payloads (registered? : Option Kind) :
      field members "data" (Payload.readAs source registered?) =
        field members "data" (Payload.read source) := by
    rw [field, field, data]
    exact congrArg (under _) (Payload.readAs_of_stated stated registered?)
  rw [readTagged_eq, readTagged_eq, newRead, plainRead, field_congr (others "id" (by decide)),
    fieldOr_congr (others "position" (by decide)), field_congr (others "data" (by decide)),
    payloads, payloads]
  generalize field members "id" text = id
  generalize fieldOr members "position" origin (keyed number) = position
  generalize field members "data" (Payload.read source) = payload
  cases id <;> cases position <;> cases payload <;> rfl

/-- A payload that states its type is read alike under every canvas type. -/
theorem load_putType {tag : Json} (plain : HasPlainType members)
    (data : Json.member? members "data" = some (.obj payload))
    (stated : Json.member? payload "type" = some tag) (canvasType : Text) :
    load (.obj (putEntry "type" (.str canvasType) members)) =
      (load (.obj members)).map fun node => { node with canvasType := some canvasType } := by
  have newPlain : HasPlainType (putEntry "type" (.str canvasType) members) :=
    .inr (.inr ⟨canvasType, Json.member?_putEntry_self "type" _ members⟩)
  rw [plain.load_eq, newPlain.load_eq, readTagged_putType plain data stated]
  cases readTagged .caller members <;> rfl

theorem resolved_of_load {node : Node} (loaded : load (.obj members) = .ok node) :
    ∃ payload, Json.member? members "data" = some (.obj payload) ∧
      (Json.member? payload "type" = some (.str node.kind.name) ∨
        Json.member? payload "type" = none ∧
          Json.member? members "type" = some (.str node.kind.canvasType)) ∧
      (Payload.readMembers .caller payload node.kind).value? = some node.payload := by
  obtain ⟨payload, kind, data, resolved, isPayload⟩ :=
    exists_of_readTagged (load_eq_ok_iff.mp loaded).2
  obtain rfl : node.kind = kind := Payload.kind_of_readMembers isPayload
  rw [Payload.resolvedKind?_eq_some_iff, registeredKind?_eq_some_iff] at resolved
  exact ⟨payload, data, resolved, isPayload⟩

theorem load_unresolved (plain : HasPlainType members)
    (typeless : ∀ payload, Json.member? members "data" = some (.obj payload) →
      Json.member? payload "type" = none)
    (unregistered : ∀ kind, Json.member? members "type" ≠ some (.str (Kind.canvasType kind))) :
    ∃ flaws, flaws ≠ [] ∧ load (.obj members) = .error (.invalid "FlowNode" flaws) := by
  have settles : Settles "FlowNode" (load (.obj members)) := by
    rw [settles_load_iff, ← unusableType?_isSome_iff, plain.usable]
    exact Bool.false_ne_true
  cases loaded : load (.obj members) with
  | ok node =>
      obtain ⟨payload, data, stated | ⟨-, registered⟩, -⟩ := resolved_of_load loaded
      · rw [typeless payload data] at stated
        cases stated
      · exact absurd registered (unregistered node.kind)
  | error refusal =>
      rw [loaded] at settles
      cases settles with
      | turnedDown someFlaw => exact ⟨_, someFlaw, rfl⟩

/-- The kind that a payload is taken for. One that the payload states counts, whatever the canvas
type; one that is not stated is that of the canvas type, just as if it were stated; and where there
is neither, the node is turned down. What is accepted is a payload of that kind, and is written with
it. -/
theorem load_resolves (plain : HasPlainType members) :
    (∀ payload kind, Json.member? members "data" = some (.obj payload) →
      Json.member? payload "type" = none →
      Json.member? members "type" = some (.str (Kind.canvasType kind)) →
        load (.obj (stating kind payload members)) = load (.obj members)) ∧
    (∀ payload tag, Json.member? members "data" = some (.obj payload) →
      Json.member? payload "type" = some tag → ∀ canvasType,
        load (.obj (putEntry "type" (.str canvasType) members)) =
          (load (.obj members)).map fun node => { node with canvasType := some canvasType }) ∧
    ((∀ payload, Json.member? members "data" = some (.obj payload) →
        Json.member? payload "type" = none) →
      (∀ kind, Json.member? members "type" ≠ some (.str (Kind.canvasType kind))) →
        ∃ flaws, flaws ≠ [] ∧ load (.obj members) = .error (.invalid "FlowNode" flaws)) ∧
    (∀ node, load (.obj members) = .ok node →
      ∃ payload, Json.member? members "data" = some (.obj payload) ∧
        (Json.member? payload "type" = some (.str node.kind.name) ∨
          Json.member? payload "type" = none ∧
            Json.member? members "type" = some (.str node.kind.canvasType)) ∧
        (Payload.readMembers .caller payload node.kind).value? = some node.payload ∧
        ∃ written, Json.member? node.membersToJson "data" = some (.obj written) ∧
          Json.member? written "type" = some (.str node.kind.name)) := by
  refine ⟨?_, ?_, load_unresolved plain, ?_⟩
  · intro payload kind data absent registered
    exact load_stating plain data absent registered
  · intro payload tag data stated canvasType
    exact load_putType plain data stated canvasType
  · intro node loaded
    obtain ⟨payload, data, resolved, isPayload⟩ := resolved_of_load loaded
    exact ⟨payload, data, resolved, isPayload, _, node.member?_data, node.payload.member?_type⟩

/-- A node whose payload leaves its type to the canvas type. -/
def typeless : List (Text × Json) :=
  [("id", .str "send"), ("type", .str "app-action"),
    ("data", .obj [("actionName", .str "f/send")])]

/-- A node that is drawn as of another kind than its payload states. -/
def disguised : List (Text × Json) :=
  [("id", .str "send"), ("type", .str "app-input"),
    ("data", .obj [("type", .str "action"), ("actionName", .str "f/send")])]

/-- A node without anything that tells its kind. -/
def unresolved : List (Text × Json) :=
  [("id", .str "send"), ("type", .str "sticky-note"),
    ("data", .obj [("actionName", .str "f/send")])]

/-- The node that is read in each case, drawn under a canvas type. -/
def sending (canvasType : Text) : Node :=
  ⟨"send", some canvasType, origin, .action (some "f/send") []⟩

theorem typeless_resolves :
    HasPlainType typeless ∧ HasPlainType disguised ∧ HasPlainType unresolved ∧
    load (.obj (stating .action [("actionName", .str "f/send")] typeless)) =
      load (.obj typeless) ∧
    load (.obj typeless) = .ok (sending "app-action") ∧
    load (.obj disguised) = .ok (sending "app-input") ∧
    load (.obj (putEntry "type" (.str "app-condition") disguised)) =
      .ok (sending "app-condition") ∧
    (∃ flaws, flaws ≠ [] ∧ load (.obj unresolved) = .error (.invalid "FlowNode" flaws)) ∧
    ∃ written, Json.member? (sending "app-input").membersToJson "data" = some (.obj written) ∧
      Json.member? written "type" = some (.str "action") := by
  have plain : HasPlainType typeless := .inr (.inr ⟨"app-action", rfl⟩)
  have disguisedPlain : HasPlainType disguised := .inr (.inr ⟨"app-input", rfl⟩)
  have unresolvedPlain : HasPlainType unresolved := .inr (.inr ⟨"sticky-note", rfl⟩)
  have loaded : load (.obj disguised) = .ok (sending "app-input") := rfl
  refine ⟨plain, disguisedPlain, unresolvedPlain, ?_, rfl, loaded, ?_, ?_, ?_⟩
  · exact (load_resolves plain).1 [("actionName", .str "f/send")] .action rfl rfl rfl
  · rw [(load_resolves disguisedPlain).2.1 _ _ rfl rfl "app-condition", loaded]
    rfl
  · apply (load_resolves unresolvedPlain).2.2.1
    · intro payload data
      cases data
      rfl
    · intro kind typed
      have sameType := Json.str.inj (Option.some.inj typed)
      cases kind <;> exact absurd sameType (by decide)
  · obtain ⟨_, -, -, -, written⟩ := (load_resolves disguisedPlain).2.2.2 _ loaded
    exact written

end Node

end Flowchart
