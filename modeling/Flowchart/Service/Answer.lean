import Flowchart.Compile.Request
import Flowchart.Graph.Dump
import Flowchart.Graph.Lint
import Flowchart.Graph.Normalize
import Flowchart.Json.Finite
import Flowchart.Palette
import Flowchart.Service.Body
import Flowchart.Service.Route
import Flowchart.Settings.Basic

/-!
The answers of the service. A body is checked before anything else about a request of a known
route; what cannot be answered at all, or whose answer cannot be sent, is a failure without
details.
-/

namespace Flowchart.Service

def version : Text := "0.1.0"

def settings : Settings := Settings.default

def options : Options := ⟨settings.dialect, settings.honorRequired⟩

def health : Json :=
  .obj [("status", .str "ok"), ("version", .str version)]

def info : Json :=
  .obj [("platform", .str "canvasflow"), ("version", .str version),
    ("environment", .str settings.environment), ("schema_dialect", .str settings.dialect),
    ("honor_required", .bool settings.honorRequired), ("node_types", .int Kind.all.length)]

def nodeTypes : Json :=
  .obj [("node_types", .arr (Kind.all.map Kind.toJson))]

def compileFlow (request : FlowRequest) : Json :=
  (request.graph.compile options request.summary request.description).toJson

def previewFlow (request : FlowRequest) : Json :=
  let compilation := request.graph.compile options request.summary request.description
  let preview :=
    match compilation.document? with
    | some document => document.render (some settings.previewIndent)
    | none => "Failed to compile the workflow."
  .obj [("status", .str compilation.status.name), ("preview", .str preview),
    ("warnings", compilation.warningsJson), ("error", compilation.errorJson)]

def normalizeFlow (request : FlowRequest) : Json :=
  request.graph.normalize.toJson.finite

def validateFlow (request : FlowRequest) : Json :=
  let issues := request.graph.lint
  .obj [("valid", .bool (issues = [])), ("issues", .ofTexts (issues.map Issue.message))]

def answerFlow (body : Body) (answer : FlowRequest → Json) : Except Response Response := do
  let value ← body.loadRequired
  if (Graph.unusableType? value).isSome then .error .failure
  else (Response.ofReading FlowRequest.read value).map fun request => .send (answer request)

def tellHandles (node : Node) : Json :=
  .obj [("handles", .arr (node.handles.map Handle.toJson))]

def answerHandles (body : Body) : Except Response Response := do
  let value ← body.loadRequired
  if (Node.unusableType? value).isSome then .error .failure
  else (Response.ofReading (Node.read .body) value).map fun node => .send (tellHandles node)

/-- Makes a fresh node under the given id. -/
def answerCreate (freshId : Text) (kindName : Text) (body : Body) :
    Except Response Response := do
  let place ← Response.ofReading readPlace ((← body.load).getD .null)
  match Kind.load (.str kindName) with
  | .error refusal => .error (.detail 400 refusal.message)
  | .ok kind =>
      if kind.isDroppable then .ok (.send (Node.fresh freshId kind place).toJson)
      else .error (.detail 400 (Refusal.notDroppable kind).message)

/-- The answer to a route, with an id for the node that it may make. -/
def answerRoute (freshId : Text) (body : Body) : Route → Except Response Response
  | .health => .ok (.ok health)
  | .info => .ok (.ok info)
  | .nodeTypes => .ok (.ok nodeTypes)
  | .createNode kind => answerCreate freshId kind body
  | .nodeHandles => answerHandles body
  | .initialGraph => .ok (.ok Graph.initial.toJson)
  | .compile => answerFlow body compileFlow
  | .preview => answerFlow body previewFlow
  | .normalize => answerFlow body normalizeFlow
  | .validate => answerFlow body validateFlow

/-- The answer to a request whose method is written in capitals. -/
def answerMethod (freshId : Text) (method target : String) (body : Body) : Response :=
  match Route.ofTarget? target with
  | none => .detail 404 "Not Found"
  | some route =>
      if route.method = method then
        match answerRoute freshId body route with
        | .ok response => response
        | .error response => response
      else .detail 405 "Method Not Allowed"

/-- The answer to a request; the name of a method may be in any case. -/
def answer (freshId : Text) (method target : String) (body : Body) : Response :=
  let method := method.map Char.toUpper
  let response := answerMethod freshId method target body
  if method = "HEAD" then response.head else response

end Flowchart.Service
