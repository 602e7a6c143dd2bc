import Flowchart.Service.Answer

/-!
What the service sends back when a graph or a node is posted: the outcome of the route's own work.
-/

namespace Flowchart

/-- What is sent, whether the work on a request went to its end or stopped before. -/
def Response.ofOutcome : Except Response Response → Response
  | .ok response => response
  | .error response => response

theorem Body.loadRequired_of_load {body : Body} {value : Json}
    (loaded : body.load = .ok (some value)) : body.loadRequired = .ok value := by
  rw [loadRequired, loaded]
  rfl

namespace Service

theorem answerFlow_of_load {body : Body} {value : Json} (loaded : body.load = .ok (some value))
    (tell : FlowRequest → Json) :
    answerFlow body tell =
      if (Graph.unusableType? value).isSome then .error .failure
      else (Response.ofReading FlowRequest.read value).map fun request => .send (tell request) := by
  rw [answerFlow, Body.loadRequired_of_load loaded]
  rfl

/-- The routes that work on the graph in the body of a request: the target of each, and what it
tells. -/
def flowRoutes : List (String × (FlowRequest → Json)) :=
  [("/flows/compile", compileFlow), ("/flows/preview", previewFlow),
    ("/flows/normalize", normalizeFlow), ("/flows/validate", validateFlow)]

theorem answer_post (freshId : Text) (body : Body) {target : String} {route : Route}
    (found : Route.ofTarget? target = some route) (posted : route.method = "POST") :
    answer freshId "POST" target body = .ofOutcome (answerRoute freshId body route) := by
  have capitals : "POST".map Char.toUpper = "POST" := by decide +kernel
  have noHead : "POST" ≠ "HEAD" := by decide
  simp only [answer, capitals, if_neg noHead, answerMethod, found, posted, if_true]
  cases answerRoute freshId body route <;> rfl

variable (freshId : Text) (body : Body)

theorem answer_compile :
    answer freshId "POST" "/flows/compile" body = .ofOutcome (answerFlow body compileFlow) := by
  have found : Route.ofTarget? "/flows/compile" = some .compile := by decide +kernel
  exact answer_post freshId body found rfl

theorem answer_preview :
    answer freshId "POST" "/flows/preview" body = .ofOutcome (answerFlow body previewFlow) := by
  have found : Route.ofTarget? "/flows/preview" = some .preview := by decide +kernel
  exact answer_post freshId body found rfl

theorem answer_normalize :
    answer freshId "POST" "/flows/normalize" body =
      .ofOutcome (answerFlow body normalizeFlow) := by
  have found : Route.ofTarget? "/flows/normalize" = some .normalize := by decide +kernel
  exact answer_post freshId body found rfl

theorem answer_validate :
    answer freshId "POST" "/flows/validate" body = .ofOutcome (answerFlow body validateFlow) := by
  have found : Route.ofTarget? "/flows/validate" = some .validate := by decide +kernel
  exact answer_post freshId body found rfl

theorem answer_nodeHandles :
    answer freshId "POST" "/node-handles" body = .ofOutcome (answerHandles body) := by
  have found : Route.ofTarget? "/node-handles" = some .nodeHandles := by decide +kernel
  exact answer_post freshId body found rfl

theorem answer_flow {flow : String × (FlowRequest → Json)} (isFlow : flow ∈ flowRoutes) :
    answer freshId "POST" flow.1 body = .ofOutcome (answerFlow body flow.2) := by
  simp only [flowRoutes, List.mem_cons, List.not_mem_nil, or_false] at isFlow
  rcases isFlow with rfl | rfl | rfl | rfl
  · exact answer_compile freshId body
  · exact answer_preview freshId body
  · exact answer_normalize freshId body
  · exact answer_validate freshId body

end Service

end Flowchart
