import Flowchart.Proofs.Acceptance
import Flowchart.Proofs.Outcome
import Flowchart.Proofs.Sendable

/-!
The service agrees with the calls that a program makes itself, and its routes agree with each other:
a body is read as the graph that the canvas hands over, and every route tells about the one
compilation of that graph. What it tells is sent if it can be sent, as it always can if no surrogate
stands on its own in the body.
-/

namespace Flowchart

open Reading

/-! ## What a body holds -/

/-- A member is an array if it is there. -/
def HasItems (members : List (Text × Json)) (name : Text) : Prop :=
  ∀ value, Json.member? members name = some value → ∃ items, value = .arr items

/-- A member is a text if it is there. -/
def HasText (members : List (Text × Json)) (name : Text) : Prop :=
  ∀ value, Json.member? members name = some value → ∃ content, value = .str content

/-- The members of an object that are of the right kinds, as far as they are there. What the arrays
hold is left open. -/
structure IsFlowBody (members : List (Text × Json)) : Prop where
  nodes : HasItems members "nodes"
  edges : HasItems members "edges"
  summary : HasText members "summary"
  description : HasText members "description"

/-- The items of a member, none if it is not there. -/
def givenItems (members : List (Text × Json)) (name : Text) : List Json :=
  ((Json.member? members name).bind Json.items?).getD []

/-- The text of a member, empty if it is not there. -/
def givenText (members : List (Text × Json)) (name : Text) : Text :=
  match Json.member? members name with
  | some (.str content) => content
  | _ => ""

section

variable {members : List (Text × Json)} {name : Text}

theorem HasItems.cases (hasItems : HasItems members name) :
    (Json.member? members name = none ∧ givenItems members name = []) ∨
      Json.member? members name = some (.arr (givenItems members name)) := by
  cases found : Json.member? members name with
  | none => simp [givenItems, found]
  | some value =>
      obtain ⟨items, rfl⟩ := hasItems value found
      simp [givenItems, found, Json.items?]

theorem HasText.cases (hasText : HasText members name) :
    (Json.member? members name = none ∧ givenText members name = "") ∨
      Json.member? members name = some (.str (givenText members name)) := by
  cases found : Json.member? members name with
  | none => simp [givenText, found]
  | some value =>
      obtain ⟨content, rfl⟩ := hasText value found
      simp [givenText, found]

theorem HasItems.collection (hasItems : HasItems members name) :
    Graph.collection ((Json.member? members name).getD .null) = .ok (givenItems members name) := by
  rcases hasItems.cases with ⟨found, none⟩ | found
  · rw [found, none]
    rfl
  · rw [found]
    rfl

theorem HasItems.value?_fieldOr {α : Type} (hasItems : HasItems members name)
    (otherwise : Fault) (read : Json → Reading α) :
    (fieldOr members name [] (array otherwise read)).value? =
      (givenItems members name).mapM fun value => (read value).value? := by
  rcases hasItems.cases with ⟨found, none⟩ | found
  · simp [found, none]
  · simp [found, Json.items?]

theorem HasText.value?_fieldOr (hasText : HasText members name) :
    (fieldOr members name ("" : Text) text).value? = some (givenText members name) := by
  rcases hasText.cases with ⟨found, none⟩ | found
  · simp [found, none]
  · simp [found]

theorem HasText.getD (hasText : HasText members name) :
    (Json.member? members name).getD (.str "") = .str (givenText members name) := by
  rcases hasText.cases with ⟨found, none⟩ | found
  · rw [found, none]
    rfl
  · rw [found]
    rfl

end

/-! ## The graph of a body -/

/-- The graph that a program gets when it hands over the collections of a body itself. -/
def handedGraph (members : List (Text × Json)) : Except Refusal Graph :=
  Graph.ofCanvas ((Json.member? members "nodes").getD .null)
    ((Json.member? members "edges").getD .null)

/-- What a program gets when it has the members of a body compiled itself. -/
def handedCompilation (members : List (Text × Json)) : Except Refusal Compilation :=
  compileCanvas ((Json.member? members "nodes").getD .null)
    ((Json.member? members "edges").getD .null)
    ((Json.member? members "summary").getD (.str ""))
    ((Json.member? members "description").getD (.str ""))

/-- The collections of a body as a program hands them over. -/
def handedCollections (members : List (Text × Json)) : Json :=
  .obj [("nodes", .arr (givenItems members "nodes")), ("edges", .arr (givenItems members "edges"))]

/-- The request that is read from a body with the given graph. -/
def requestOf (members : List (Text × Json)) (graph : Graph) : FlowRequest :=
  ⟨graph, givenText members "summary", givenText members "description"⟩

variable {members : List (Text × Json)} {graph : Graph}

theorem handedGraph_eq_load (isFlow : IsFlowBody members) :
    handedGraph members = Graph.load (handedCollections members) := by
  rw [handedGraph, Graph.ofCanvas, isFlow.nodes.collection, isFlow.edges.collection]
  rfl

theorem unusableType?_handedCollections (isFlow : IsFlowBody members) :
    Graph.unusableType? (handedCollections members) = Graph.unusableType? (.obj members) := by
  have listed : Graph.unusableType? (handedCollections members) =
      (givenItems members "nodes").findSome? Node.unusableType? := by
    simp [Graph.unusableType?, handedCollections, Json.member?]
  rw [listed]
  rcases isFlow.nodes.cases with ⟨found, none⟩ | found
  · simp [Graph.unusableType?, found, none]
  · simp [Graph.unusableType?, found]

theorem value?_read_handedCollections (isFlow : IsFlowBody members) :
    (Graph.read .caller (handedCollections members)).value? =
      (Graph.readMembers .body members).value? := by
  have nodes := isFlow.nodes.value?_fieldOr Source.caller.notCollection (Node.read .caller)
  have edges := isFlow.edges.value?_fieldOr Source.caller.notCollection (Edge.read .caller)
  rw [Graph.value?_readMembers_body]
  -- The members of the body go first: only what is given of them may be left.
  simp only [Graph.readMembers, value?_seq, value?_map, nodes, edges]
  simp [Graph.read, Graph.readMembers, handedCollections, Json.members?, Json.member?, List.lookup_cons,
    Json.items?]

theorem FlowRequest.value?_read (isFlow : IsFlowBody members) :
    (FlowRequest.read (.obj members)).value? =
      (Graph.readMembers .body members).value?.map (requestOf members) := by
  simp only [FlowRequest.read, object, value?_seq, value?_map, isFlow.summary.value?_fieldOr,
    isFlow.description.value?_fieldOr]
  cases (Graph.readMembers .body members).value? <;> rfl

/-- A body is read exactly if its collections can be handed over, and as the same graph. -/
theorem handedGraph_eq_ok_iff (isFlow : IsFlowBody members) :
    handedGraph members = .ok graph ↔
      Graph.unusableType? (.obj members) = none ∧
        FlowRequest.read (.obj members) = .accepted (requestOf members graph) := by
  rw [handedGraph_eq_load isFlow, Graph.load_eq_ok_iff, unusableType?_handedCollections isFlow,
    value?_read_handedCollections isFlow, ← value?_eq_some_iff, FlowRequest.value?_read isFlow]
  simp [requestOf]

theorem exists_eq_requestOf (isFlow : IsFlowBody members) {request : FlowRequest}
    (isRead : FlowRequest.read (.obj members) = .accepted request) :
    ∃ graph, request = requestOf members graph := by
  have accepted := FlowRequest.value?_read isFlow
  rw [isRead, value?_accepted] at accepted
  obtain ⟨graph, -, same⟩ := Option.map_eq_some_iff.mp accepted.symm
  exact ⟨graph, same.symm⟩

/-- The service compiles with the options that are the default ones for everyone. -/
theorem handedCompilation_of_handedGraph (isFlow : IsFlowBody members)
    (handed : handedGraph members = .ok graph) :
    handedCompilation members = .ok (graph.compile Service.options
      (givenText members "summary") (givenText members "description")) := by
  rw [handedGraph] at handed
  rw [handedCompilation, compileCanvas, handed, isFlow.summary.getD, isFlow.description.getD]
  rfl

/-! ## Answers about a graph -/

namespace Response

def status : Response → Nat
  | json status _ | text status _ => status

/-- What is told of flaws is no success. -/
theorem exists_ofReading_of_flawed {α : Type} {read : Json → Reading α} {value : Json}
    {flaws : List Flaw} (flawed : read value = .flawed flaws) :
    ∃ response, response.status ≠ 200 ∧ ofReading read value = .error response := by
  simp only [ofReading, flawed]
  split
  · exact ⟨_, by simp [status, unprocessable], rfl⟩
  · exact ⟨_, by simp [status, failure], rfl⟩

end Response

namespace Service

variable {body : Body} {value : Json}

theorem answerFlow_of_read {request : FlowRequest} (loaded : body.load = .ok (some value))
    (usable : Graph.unusableType? value = none)
    (isRead : FlowRequest.read value = .accepted request) (tell : FlowRequest → Json) :
    answerFlow body tell = .ok (.send (tell request)) := by
  rw [answerFlow_of_load loaded, usable, Response.ofReading, isRead]
  rfl

/-- A body that is not read has one answer, whatever would be told of a request. -/
theorem exists_answerFlow_of_not_read (loaded : body.load = .ok (some value))
    (notRead : ∀ request, Graph.unusableType? value = none →
      FlowRequest.read value ≠ .accepted request) :
    ∃ response, response.status ≠ 200 ∧ ∀ tell, answerFlow body tell = .error response := by
  simp only [answerFlow_of_load loaded]
  cases usable : Graph.unusableType? value with
  | some container => exact ⟨.failure, by decide, fun tell => rfl⟩
  | none =>
      cases outcome : FlowRequest.read value with
      | accepted request => exact absurd outcome (notRead request usable)
      | flawed flaws =>
          obtain ⟨response, noSuccess, told⟩ := Response.exists_ofReading_of_flawed outcome
          refine ⟨response, noSuccess, fun tell => ?_⟩
          rw [told]
          rfl

end Service

/-! ## What the preview shows -/

theorem Status.name_eq_name_iff {status other : Status} :
    status.name = other.name ↔ status = other := by
  cases status <;> cases other <;> decide

/-- What an object tells under a name. -/
def Json.told? (value : Json) (name : Text) : Option Json :=
  value.members?.bind (Json.member? · name)

theorem Json.isUnicode_of_told? {value part : Json} {name : Text}
    (unicode : value.isUnicode = true) (told : value.told? name = some part) :
    part.isUnicode = true := by
  cases value with
  | obj members => exact passes_of_member? unicode told
  | _ => cases told

/-- A preview shows a compilation as it is told in full: the error and the warnings are the same,
the status sums them up, and the text is that of the flow, or says that there is none. -/
structure Json.Previews (preview compiled : Json) : Prop where
  error : preview.told? "error" = compiled.told? "error"
  warnings : preview.told? "warnings" = compiled.told? "warnings"
  notCompilable : preview.told? "status" = some (.str "not_compilable") ↔
    compiled.told? "success" = some (.bool false)
  withWarnings : preview.told? "status" = some (.str "compiled_with_warnings") ↔
    compiled.told? "success" = some (.bool true) ∧
      ∃ first rest, compiled.told? "warnings" = some (.arr (first :: rest))
  clean : preview.told? "status" = some (.str "compiled") ↔
    compiled.told? "success" = some (.bool true) ∧ compiled.told? "warnings" = some (.arr [])
  document : compiled.told? "success" = some (.bool true) →
    ∃ text flow, preview.told? "preview" = some (.str text) ∧ compiled.told? "flow" = some flow ∧
      (compiled.isUnicode → Json.read text = .ok flow)
  failure : compiled.told? "success" = some (.bool false) →
    preview.told? "preview" = some (.str "Failed to compile the workflow.")

namespace Service

variable (request : FlowRequest)

/-- The compilation that a request asks for. -/
def compilationOf : Compilation :=
  request.graph.compile options request.summary request.description

theorem told?_previewFlow_status :
    (previewFlow request).told? "status" =
      some (.str (compilationOf request).status.name) := rfl

theorem told?_compileFlow_success :
    (compileFlow request).told? "success" =
      some (.bool (compilationOf request).succeeded) := rfl

theorem told?_compileFlow_warnings :
    (compileFlow request).told? "warnings" =
      some (.arr ((compilationOf request).warnings.map Warning.toJson)) := rfl

theorem previewText_of_document {document : Document}
    (made : (compilationOf request).document? = some document) :
    (previewFlow request).told? "preview" =
        some (.str (document.render (some settings.previewIndent))) ∧
      (compileFlow request).told? "flow" = some document.toJson := by
  rw [compilationOf] at made
  simp [Json.told?, Json.members?, previewFlow, compileFlow, Compilation.toJson, Json.member?,
    List.lookup_cons, made]

theorem previewText_of_failed (failed : (compilationOf request).document? = none) :
    (previewFlow request).told? "preview" = some (.str "Failed to compile the workflow.") := by
  rw [compilationOf] at failed
  simp [Json.told?, Json.members?, previewFlow, Json.member?, List.lookup_cons, failed]

theorem previews_compile : (previewFlow request).Previews (compileFlow request) := by
  have named (status : Status) :
      (previewFlow request).told? "status" = some (.str status.name) ↔
        (compilationOf request).status = status := by
    simp [told?_previewFlow_status, Status.name_eq_name_iff]
  have succeeded (success : Bool) :
      (compileFlow request).told? "success" = some (.bool success) ↔
        (compilationOf request).succeeded = success := by
    simp [told?_compileFlow_success]
  constructor
  case error => rfl
  case warnings => rfl
  case notCompilable =>
    rw [succeeded]
    exact (named .notCompilable).trans Compilation.status_eq_notCompilable_iff
  case withWarnings =>
    have someWarning :
        (∃ first rest, (compileFlow request).told? "warnings" =
            some (.arr (first :: rest))) ↔ (compilationOf request).warnings ≠ [] := by
      rw [told?_compileFlow_warnings]
      cases (compilationOf request).warnings <;> simp
    rw [succeeded, someWarning]
    exact (named .compiledWithWarnings).trans Compilation.status_eq_compiledWithWarnings_iff
  case clean =>
    have noWarning : (compileFlow request).told? "warnings" = some (.arr []) ↔
        (compilationOf request).warnings = [] := by
      simp [told?_compileFlow_warnings]
    rw [succeeded, noWarning]
    exact (named .compiled).trans Compilation.status_eq_compiled_iff
  case document =>
    intro success
    have isSome := Compilation.succeeded_iff_document?.mp ((succeeded true).mp success)
    obtain ⟨document, made⟩ := Option.isSome_iff_exists.mp isSome
    obtain ⟨preview, flow⟩ := previewText_of_document request made
    refine ⟨_, _, preview, flow, fun unicode => ?_⟩
    exact Document.read_render (Json.isUnicode_of_told? unicode flow) _
  case failure =>
    intro failed
    exact previewText_of_failed request
      (Compilation.document?_of_failed ((succeeded false).mp failed))

end Service

/-! ## Graphs whose places are finite -/

namespace Json

variable {α : Type} (write : α → Json)

theorem finiteItems_map (items : List α)
    (each : ∀ item ∈ items, (write item).finite = write item) :
    finiteItems (items.map write) = items.map write := by
  induction items with
  | nil => rfl
  | cons first rest inductionHypothesis =>
      rw [List.forall_mem_cons] at each
      simp only [List.map_cons, finiteItems, each.1, inductionHypothesis each.2]

theorem finiteMembers_map (entries : List (Text × α))
    (each : ∀ entry ∈ entries, (write entry.2).finite = write entry.2) :
    finiteMembers (entries.map fun entry => (entry.1, write entry.2)) =
      entries.map fun entry => (entry.1, write entry.2) := by
  induction entries with
  | nil => rfl
  | cons first rest inductionHypothesis =>
      rw [List.forall_mem_cons] at each
      simp only [List.map_cons, finiteMembers, each.1, inductionHypothesis each.2]

@[simp]
theorem finite_ofText? (content : Option Text) : (ofText? content).finite = ofText? content := by
  cases content <;> rfl

end Json

theorem Payload.finite_toJson (payload : Payload) : payload.toJson.finite = payload.toJson := by
  cases payload with
  | input properties =>
      have rows := Json.finiteItems_map InputProperty.toJson properties fun _ _ => rfl
      simp [toJson, Json.finite, Json.finiteMembers, rows]
  | action name bindings =>
      have rows := Json.finiteItems_map Binding.toJson bindings fun _ _ => rfl
      simp [toJson, Json.finite, Json.finiteMembers, rows]
  | condition rows =>
      have rows := Json.finiteItems_map BranchRow.toJson rows fun _ _ => rfl
      simp [toJson, Json.finite, Json.finiteMembers, rows]

theorem Node.finite_toJson {node : Node}
    (placed : ∀ entry ∈ node.position.entries, entry.2.isFinite = true) :
    node.toJson.finite = node.toJson := by
  have coordinates :
      ∀ entry ∈ node.position.entries, (Json.float entry.2).finite = .float entry.2 := by
    intro entry member
    simp [Json.finite, placed entry member]
  have place := Json.finiteMembers_map Json.float node.position.entries coordinates
  simp [toJson, Json.finite, Json.finiteMembers, place, node.payload.finite_toJson]

theorem Edge.finite_toJson (edge : Edge) : edge.toJson.finite = edge.toJson := by
  simp [toJson, Json.finite, Json.finiteMembers]

namespace Graph

/-- Every node stands at a place whose coordinates are finite. -/
def HasFinitePlaces (graph : Graph) : Prop :=
  ∀ node ∈ graph.nodes, ∀ entry ∈ node.position.entries, entry.2.isFinite = true

theorem finite_toJson (placed : graph.HasFinitePlaces) : graph.toJson.finite = graph.toJson := by
  have nodes := Json.finiteItems_map Node.toJson graph.nodes fun node member =>
    Node.finite_toJson (placed node member)
  have edges := Json.finiteItems_map Edge.toJson graph.edges fun edge _ =>
    edge.finite_toJson
  simp [toJson, Json.finite, Json.finiteMembers, nodes, edges]

theorem HasFinitePlaces.normalize (placed : graph.HasFinitePlaces) :
    graph.normalize.HasFinitePlaces := by
  intro node member
  obtain ⟨original, isNode, rfl⟩ := List.mem_map.mp member
  exact placed original isNode

end Graph

/-! ## The routes for graphs -/

/-- What the routes for graphs tell about a graph and its compilation, where `tells` is how a response
tells a value. -/
structure TellAbout (tells : Response → Json → Prop) (post : String → Response) (graph : Graph)
    (compilation : Compilation) : Prop where
  compile : tells (post "/flows/compile") compilation.toJson
  preview : ∃ shown, tells (post "/flows/preview") shown ∧ shown.Previews compilation.toJson ∧
    (compilation.toJson.isSendable → shown.isSendable)
  validate : ∃ valid, (valid = true ↔ graph.lint.map Issue.message = []) ∧
    tells (post "/flows/validate") (.obj [("valid", .bool valid),
      ("issues", .ofTexts (graph.lint.map Issue.message))])
  normalize : graph.HasFinitePlaces → tells (post "/flows/normalize") graph.normalize.toJson

namespace Service

variable {body : Body} {request : FlowRequest}

theorem tellAbout_of_answered (freshId : Text) (tells : Response → Json → Prop)
    (answered : ∀ flow ∈ flowRoutes,
      tells (answer freshId "POST" flow.1 body) (flow.2 request)) :
    TellAbout tells (fun target => answer freshId "POST" target body) request.graph
      (compilationOf request) where
  compile := answered ("/flows/compile", compileFlow) (by simp [flowRoutes])
  preview := ⟨_, answered ("/flows/preview", previewFlow) (by simp [flowRoutes]),
    previews_compile request, passes_previewFlow⟩
  validate := ⟨decide (request.graph.lint = []), by simp,
    answered ("/flows/validate", validateFlow) (by simp [flowRoutes])⟩
  normalize := by
    intro placed
    have tidied : normalizeFlow request = request.graph.normalize.toJson :=
      Graph.finite_toJson placed.normalize
    exact tidied ▸ answered ("/flows/normalize", normalizeFlow) (by simp [flowRoutes])

section

variable (loaded : body.load = .ok (some (.obj members))) (isFlow : IsFlowBody members)

include loaded isFlow

theorem answer_flow_of_handed (freshId : Text) (handed : handedGraph members = .ok graph) :
    ∀ flow ∈ flowRoutes,
      answer freshId "POST" flow.1 body = .send (flow.2 (requestOf members graph)) := by
  intro flow isRoute
  obtain ⟨usable, isRead⟩ := (handedGraph_eq_ok_iff isFlow).mp handed
  rw [answer_flow freshId body isRoute, answerFlow_of_read loaded usable isRead]
  rfl

omit loaded in
theorem isUnicode_requestOf (handed : handedGraph members = .ok graph)
    (unicode : (Json.obj members).isUnicode = true) : (requestOf members graph).IsUnicode := by
  obtain ⟨-, isRead⟩ := (handedGraph_eq_ok_iff isFlow).mp handed
  exact FlowRequest.yields_read _ _ unicode (value?_eq_some_iff.mpr isRead)

theorem exists_answerFlow_of_refused {refusal : Refusal}
    (refused : handedGraph members = .error refusal) :
    ∃ response, response.status ≠ 200 ∧ ∀ tell, answerFlow body tell = .error response := by
  apply exists_answerFlow_of_not_read loaded
  intro request usable isRead
  -- A request that is read has a graph, and that could have been handed over.
  obtain ⟨graph, rfl⟩ := exists_eq_requestOf isFlow isRead
  have handed := (handedGraph_eq_ok_iff isFlow).mpr ⟨usable, isRead⟩
  rw [refused] at handed
  cases handed

theorem exists_graph_of_status (freshId : Text)
    (success : (answer freshId "POST" "/flows/compile" body).status = 200) :
    ∃ graph, handedGraph members = .ok graph := by
  cases handed : handedGraph members with
  | ok graph => exact ⟨graph, rfl⟩
  | error refusal =>
      obtain ⟨response, noSuccess, told⟩ := exists_answerFlow_of_refused loaded isFlow handed
      rw [answer_compile, told] at success
      exact absurd success noSuccess

end

/-- A body with one input node, and no edges. -/
def lonelyBody : List (Text × Json) :=
  [("nodes", .arr [.obj [("id", .str "start"), ("data", .obj [("type", .str "input")])]]),
    ("summary", .str "Nothing else")]

theorem isFlowBody_lonelyBody : IsFlowBody lonelyBody where
  nodes := by
    rintro value ⟨⟩
    exact ⟨_, rfl⟩
  edges := nofun
  summary := by
    rintro value ⟨⟩
    exact ⟨_, rfl⟩
  description := nofun

def lonelyGraph : Graph :=
  ⟨[⟨"start", none, Node.origin, .input []⟩], []⟩

/-- A body whose one input node has a surrogate on its own for an id. -/
def strayBody : List (Text × Json) :=
  [("nodes", .arr [.obj [("id", .str ⟨[.surrogate 0]⟩), ("data", .obj [("type", .str "input")])]])]

end Service

end Flowchart
