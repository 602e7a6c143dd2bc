import Flowchart.Proofs.Flaws
import Flowchart.Proofs.Sendable

/-!
What becomes of a value that is not what it should be. It is turned down with the flaws found in it,
but for a canvas type that is a container with something in it, which is looked up before it is read.
A request fails besides where a flaw cannot be told: it is told with the value that has it, and that
cannot be sent if a surrogate stands on its own in it, or a number that is not finite.
-/

namespace Flowchart

open Reading

/-! ## Canvas types that cannot be looked up -/

namespace Json

/-- A list or an object with something in it. -/
def IsFilled : Json → Prop
  | arr items => items ≠ []
  | obj members => members ≠ []
  | _ => False

end Json

/-- An object whose canvas type is a list or an object with something in it. -/
def Node.HasFilledType (value : Json) : Prop :=
  ∃ members type, value = .obj members ∧ Json.member? members "type" = some type ∧ type.IsFilled

/-- An object among whose nodes is one with such a canvas type. -/
def Graph.HasFilledType (value : Json) : Prop :=
  ∃ members nodes, value = .obj members ∧ Json.member? members "nodes" = some (.arr nodes) ∧
    ∃ node ∈ nodes, Node.HasFilledType node

theorem Node.unusableType?_isSome_iff {value : Json} :
    (unusableType? value).isSome ↔ HasFilledType value := by
  cases value with
  | obj members =>
      cases typed : Json.member? members "type" with
      | none => simp [unusableType?, HasFilledType, typed]
      | some type =>
          have onlyType : HasFilledType (.obj members) ↔ type.IsFilled := by
            simp [HasFilledType, typed]
          rw [onlyType]
          rcases type with _ | _ | _ | _ | _ | (_ | _) | (_ | _) <;>
            simp [unusableType?, typed, Json.IsFilled]
  | _ => simp [unusableType?, HasFilledType]

theorem Graph.unusableType?_isSome_iff {value : Json} :
    (unusableType? value).isSome ↔ HasFilledType value := by
  cases value with
  | obj members =>
      cases listed : Json.member? members "nodes" with
      | none => simp [unusableType?, HasFilledType, listed]
      | some nodes =>
          cases nodes with
          | arr nodes =>
              simp [unusableType?, HasFilledType, listed, List.findSome?_isSome_iff,
                Node.unusableType?_isSome_iff]
          | _ => simp [unusableType?, HasFilledType, listed]
  | _ => simp [unusableType?, HasFilledType]

/-! ## Nodes and graphs handed over -/

/-- An attempt ends with something read, or is turned down with flaws of the given model. -/
inductive Settles {α : Type} (model : Text) : Except Refusal α → Prop
  | read (value : α) : Settles model (.ok value)
  | turnedDown {flaws : List Flaw} (someFlaw : flaws ≠ []) :
      Settles model (.error (.invalid model flaws))

theorem settles_of_tellsWhy {α : Type} {reading : Reading α} (tells : reading.TellsWhy)
    (model : Text) : Settles model (reading.toExcept.mapError (.invalid model)) := by
  cases tells with
  | accepted value => exact .read value
  | flawed someFlaw => exact .turnedDown someFlaw

theorem settles_checked_iff {α : Type} {reading : Reading α} (tells : reading.TellsWhy)
    (model : Text) (unusable : Option Container) :
    Settles model
        (match unusable with
          | some container => .error (.unusableCanvasType container)
          | none => reading.toExcept.mapError (.invalid model)) ↔
      ¬unusable.isSome := by
  cases unusable with
  | none => simpa using settles_of_tellsWhy tells model
  | some container =>
      have escapes : ¬Settles (α := α) model (.error (.unusableCanvasType container)) := nofun
      simpa using escapes

theorem Node.settles_load_iff (value : Json) :
    Settles "FlowNode" (Node.load value) ↔ ¬HasFilledType value := by
  rw [← unusableType?_isSome_iff]
  exact settles_checked_iff (Node.tellsWhy_read .caller value) "FlowNode" (unusableType? value)

theorem Graph.settles_load_iff (value : Json) :
    Settles "FlowGraph" (Graph.load value) ↔ ¬HasFilledType value := by
  rw [← unusableType?_isSome_iff]
  exact settles_checked_iff (Graph.tellsWhy_read .caller value) "FlowGraph" (unusableType? value)

/-! ## Bodies of requests -/

namespace Response

/-- A request is answered, or turned down with the flaws of its body. -/
inductive IsSettled : Response → Prop
  | answered (body : Json) : IsSettled (.ok body)
  | turnedDown {flaws : List Flaw} (someFlaw : flaws ≠ []) : IsSettled (.unprocessable flaws)

/-- What is read of a body decides: what is accepted is answered with what there is to tell of it, if
that can be sent, and flaws turn the request down. -/
inductive Follows {α : Type} (tell : α → Json) : Reading α → Response → Prop
  | accepted {result : α} {response : Response} (sends : response.Sends (tell result)) :
      Follows tell (.accepted result) response
  | flawed {flaws : List Flaw} (someFlaw : flaws ≠ []) :
      Follows tell (.flawed flaws) (.unprocessable (flaws.map (Flaw.under (.name "body"))))

theorem Follows.isSettled {α : Type} {tell : α → Json} {reading : Reading α} {response : Response}
    (follows : Follows tell reading response)
    (sendable : ∀ result, reading = .accepted result → (tell result).isSendable = true) :
    response.IsSettled := by
  cases follows with
  | accepted sends =>
      have told : response = .ok _ := sends (sendable _ rfl)
      rw [told]
      exact .answered _
  | flawed someFlaw => exact .turnedDown (by simpa using someFlaw)

/-- Fails under the given condition, and is as it should be otherwise. -/
def FailsIff (response : Response) (condition : Prop) (otherwise : Response → Prop) : Prop :=
  (condition ∧ response = .failure) ∨ (¬condition ∧ otherwise response)

namespace FailsIff

variable {response : Response} {condition : Prop} {otherwise : Response → Prop}

theorem eq_failure (decided : response.FailsIff condition otherwise) (holds : condition) :
    response = .failure := by
  rcases decided with ⟨-, fails⟩ | ⟨fails, -⟩
  · exact fails
  · exact absurd holds fails

theorem of_not (decided : response.FailsIff condition otherwise) (fails : ¬condition) :
    otherwise response := by
  rcases decided with ⟨holds, -⟩ | ⟨-, settled⟩
  · exact absurd holds fails
  · exact settled

theorem mono {other : Prop} {later : Response → Prop}
    (decided : response.FailsIff condition otherwise) (same : condition ↔ other)
    (implied : otherwise response → later response) : response.FailsIff other later := by
  rcases decided with ⟨holds, fails⟩ | ⟨fails, settled⟩
  · exact .inl ⟨same.mp holds, fails⟩
  · exact .inr ⟨fun holds => fails (same.mpr holds), implied settled⟩

end FailsIff

end Response

/-- One of the flaws lies at a value that cannot be sent back with it. -/
def HidesFlaw {α : Type} (read : Json → Reading α) (value : Json) : Prop :=
  ∃ flaws, read value = .flawed flaws ∧
    ∃ flaw ∈ flaws, (value.follow flaw.place).isSendable = false

theorem not_hidesFlaw_of_accepted {α : Type} {read : Json → Reading α} {value : Json} {result : α}
    (isRead : read value = .accepted result) : ¬HidesFlaw read value := by
  rintro ⟨flaws, flawed, -⟩
  rw [isRead] at flawed
  cases flawed

theorem hidesFlaw_iff_of_flawed {α : Type} {read : Json → Reading α} {value : Json}
    {flaws : List Flaw} (flawed : read value = .flawed flaws) :
    HidesFlaw read value ↔ ¬flaws.all fun flaw => (value.follow flaw.place).isSendable := by
  simp [HidesFlaw, flawed]

/-- No way leads from a value that passes to one that does not. -/
theorem Json.passes_follow {number : Binary64 → Bool} {text : Text → Bool} {value : Json}
    (passed : value.passes number text = true) (place : List Step) :
    (value.follow place).passes number text = true := by
  induction place generalizing value with
  | nil => simpa only [follow] using passed
  | cons step rest inductionHypothesis =>
      cases step with
      | variant kind => simpa only [follow] using inductionHypothesis passed
      | name name =>
          cases value with
          | obj members =>
              cases found : member? members name with
              | none => simpa only [follow, found] using passed
              | some part =>
                  have partPassed := passes_of_member? passed found
                  simpa only [follow, found] using inductionHypothesis partPassed
          | _ => simpa only [follow] using passed
      | index place =>
          cases value with
          | arr items =>
              cases found : items[place]? with
              | none => simpa only [follow, found] using passed
              | some part =>
                  have each := List.all_eq_true.mp ((passes_arr items).symm.trans passed)
                  have partPassed := each part (List.mem_of_getElem? found)
                  simpa only [follow, found] using inductionHypothesis partPassed
          | _ => simpa only [follow] using passed

theorem not_hidesFlaw_of_isSendable {α : Type} (read : Json → Reading α) {value : Json}
    (sendable : value.isSendable = true) : ¬HidesFlaw read value := by
  rintro ⟨flaws, -, flaw, -, hidden⟩
  rw [Json.isSendable, Json.passes_follow sendable flaw.place] at hidden
  cases hidden

/-- What is read of a body decides, unless its canvas types or its flaws prevent it. -/
theorem failsIff_checked {α : Type} {read : Json → Reading α} {value : Json}
    (tells : (read value).TellsWhy) (unusable : Option Container) (tell : α → Json) :
    (Response.ofOutcome <|
      if unusable.isSome then .error .failure
      else (Response.ofReading read value).map fun result => .send (tell result)).FailsIff
      (unusable.isSome ∨ HidesFlaw read value) (Response.Follows tell (read value)) := by
  cases unusable with
  | some container => exact .inl ⟨.inl rfl, rfl⟩
  | none =>
      cases outcome : read value with
      | accepted result =>
          refine .inr ⟨by simp [not_hidesFlaw_of_accepted outcome], ?_⟩
          simp only [Response.ofReading, outcome]
          exact .accepted (Response.sends_send (tell result))
      | flawed flaws =>
          rw [outcome] at tells
          cases tells with
          | flawed someFlaw =>
              have hidden := hidesFlaw_iff_of_flawed outcome
              -- The flaws are sent back with the values that have them, if those can be sent.
              by_cases shown : flaws.all fun flaw => (value.follow flaw.place).isSendable
              · refine .inr ⟨by simpa [hidden] using shown, ?_⟩
                simp only [Response.ofReading, outcome, if_pos shown]
                exact .flawed someFlaw
              · refine .inl ⟨.inr (hidden.mpr shown), ?_⟩
                simp only [Response.ofReading, outcome, if_neg shown]
                rfl

namespace Service

variable {body : Body} {value : Json} {flow : String × (FlowRequest → Json)}

/-- A request that sends a graph fails exactly if the graph has a canvas type that cannot be looked
up, or a flaw that cannot be told. -/
theorem failsIff_flow (freshId : Text) (loaded : body.load = .ok (some value))
    (isFlow : flow ∈ flowRoutes) :
    (answer freshId "POST" flow.1 body).FailsIff
      (Graph.HasFilledType value ∨ HidesFlaw FlowRequest.read value)
      (Response.Follows flow.2 (FlowRequest.read value)) := by
  rw [answer_flow freshId body isFlow, answerFlow_of_load loaded, ← Graph.unusableType?_isSome_iff]
  exact failsIff_checked (FlowRequest.tellsWhy_read value) (Graph.unusableType? value) flow.2

theorem failsIff_handles (freshId : Text) (loaded : body.load = .ok (some value)) :
    (answer freshId "POST" "/node-handles" body).FailsIff
      (Node.HasFilledType value ∨ HidesFlaw (Node.read .body) value)
      (Response.Follows tellHandles (Node.read .body value)) := by
  rw [answer_nodeHandles, answerHandles, Body.loadRequired_of_load loaded,
    ← Node.unusableType?_isSome_iff]
  exact failsIff_checked (Node.tellsWhy_read .body value) (Node.unusableType? value) tellHandles

theorem isSendable_of_accepted_flow (unicode : value.isUnicode = true) (isFlow : flow ∈ flowRoutes)
    {request : FlowRequest} (isRead : FlowRequest.read value = .accepted request) :
    (flow.2 request).isSendable = true :=
  isSendable_flow (FlowRequest.yields_read value request unicode (value?_eq_some_iff.mpr isRead))
    isFlow

theorem isSendable_of_accepted_node (unicode : value.isUnicode = true) {node : Node}
    (isRead : Node.read .body value = .accepted node) : (tellHandles node).isSendable = true :=
  isSendable_tellHandles
    (Node.yields_read .body value node unicode (value?_eq_some_iff.mpr isRead))

end Service

/-- A node whose canvas type stands in an empty list. -/
def Node.emptyTyped : Json :=
  .obj [("type", .arr [])]

/-- A node whose canvas type stands in a list. -/
def Node.listTyped : Json :=
  .obj [("id", .str "n"), ("type", .arr [.str "app-action"]),
    ("data", .obj [("type", .str "action")])]

theorem Node.listTyped_hasFilledType : HasFilledType listTyped :=
  ⟨_, .arr [.str "app-action"], rfl, rfl, List.cons_ne_nil _ _⟩

end Flowchart
