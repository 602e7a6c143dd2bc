import Flowchart.Proofs.Agreement
import Flowchart.Proofs.DocumentRoundTrip
import Flowchart.Proofs.Requests
import Flowchart.Proofs.Schema
import Flowchart.Proofs.Unfolding
import Flowchart.Proofs.Unicode

/-!
What is told of a graph whose texts hold no surrogate on its own can be sent. Each text that is told
is one of the graph or is put together from such texts and words of the program, and a number that is
told is finite.
-/

namespace Flowchart

open Json

variable {number : Binary64 → Bool}

/-! ## Documents -/

theorem passes_membersAround {first name last : Text} {content : Option Text} {head value : Json}
    (names : first.isUnicode = true ∧ name.isUnicode = true ∧ last.isUnicode = true)
    (headPasses : head.passes number Text.isUnicode = true)
    (plain : content.all Text.isUnicode = true)
    (valuePasses : value.passes number Text.isUnicode = true) :
    (obj (membersAround false (first, head) name content (last, value))).passes number
      Text.isUnicode = true := by
  cases content with
  | none => simp [membersAround, memberOfText?, names, headPasses, valuePasses]
  | some text =>
      rw [Option.all_some] at plain
      simp [membersAround, memberOfText?, names, headPasses, valuePasses, plain]

theorem passes_scriptModule {id : Text} {name : Option Text} {bindings : List Binding}
    (plain : id.isUnicode = true)
    (payload : (Payload.action name bindings).toJson.isUnicode = true) :
    ((scriptModule id name bindings).toJson false).passes number Text.isUnicode = true := by
  obtain ⟨named, given⟩ := Payload.isUnicode_action_iff.mp payload
  rw [scriptModule, Module.toJson]
  refine passes_membersAround ⟨rfl, rfl, rfl⟩ plain rfl
    (passes_membersAround ⟨rfl, rfl, rfl⟩ rfl named ?_)
  simp only [passes_obj, List.all_map, List.all_eq_true]
  intro entry member
  obtain ⟨binding, isGiven, rfl⟩ := List.mem_map.mp (Keyed.mem_of_mem_entries_ofList member)
  obtain ⟨-, parameter, expression⟩ := Binding.isUnicode_iff.mp (given binding isGiven)
  simp [transformToJson, parameter, expression]

theorem passes_branch {label expression : Text} {modules : List Module}
    (plain : label.isUnicode = true ∧ expression.isUnicode = true)
    (inner : (arr (modulesToJson false modules)).passes number Text.isUnicode = true) :
    ((Branch.mk label expression modules).toJson false).passes number Text.isUnicode = true := by
  simp only [Branch.toJson, passes_obj, List.all_cons, inner]
  simp [plain]

theorem passes_branchOne {id : Text} {default : List Module} {branches : List Branch}
    (plain : id.isUnicode = true)
    (defaultPasses : (arr (modulesToJson false default)).passes number Text.isUnicode = true)
    (branchesPass : (arr (branchesToJson false branches)).passes number Text.isUnicode = true) :
    ((Module.branchOne id (some "") default branches).toJson false).passes number Text.isUnicode =
      true := by
  rw [Module.toJson]
  refine passes_membersAround ⟨rfl, rfl, rfl⟩ plain rfl ?_
  rw [passes_obj, List.all_cons, List.all_cons, List.all_cons, defaultPasses, branchesPass]
  rfl

namespace Graph

variable {graph : Graph} {node : Node}

/-- The modules that a node unfolds to. -/
theorem Unfolds.passes (unicode : graph.toJson.isUnicode = true) {modules : List Module}
    (unfolded : graph.Unfolds graph.unroll node modules) (member : node ∈ graph.nodes) :
    (arr (modulesToJson false modules)).passes number Text.isUnicode = true := by
  induction unfolded with
  | @node node below each inductionHypothesis =>
      obtain ⟨id, -, -, plain⟩ := Node.isUnicode_iff.mp ((isUnicode_iff.mp unicode).1 node member)
      have behind (target? : Option Node)
          (steps : ∀ target, target? = some target → graph.Follows node target) :
          (arr (modulesToJson false (target?.elim [] below))).passes number Text.isUnicode = true := by
        cases target? with
        | none => rfl
        | some target =>
            have step := steps target rfl
            exact inductionHypothesis target step step.mem_nodes
      unfold unroll
      cases payload : node.payload with
      | input properties =>
          have linear : node.kind ≠ .condition := by simp [Node.kind, payload, Payload.kind]
          exact behind _ fun target => (follows_iff_of_linear linear).mpr
      | action name bindings =>
          have linear : node.kind ≠ .condition := by simp [Node.kind, payload, Payload.kind]
          have script : ((scriptModule node.id name bindings).toJson false).passes number
              Text.isUnicode = true := passes_scriptModule id (payload ▸ plain)
          have rest := behind _ fun target => (follows_iff_of_linear linear).mpr
          rw [scriptModule, Keyed.ofList_eq_ofLastGiven] at script
          simpa [modulesToJson, script] using rest
      | condition rows =>
          rw [payload, Payload.isUnicode_condition_iff] at plain
          have default := behind (graph.target? (graph.edge? node.id (some defaultHandle)))
            fun target isDefault => (follows_iff_of_condition payload).mpr (.inl isDefault)
          have branches : (arr (branchesToJson false (rows.filterMap fun row =>
              (graph.target? (graph.edge? node.id (some row.id))).map fun target =>
                Branch.mk row.label row.expression (below target)))).passes number
              Text.isUnicode = true := by
            rw [passes_arr, branchesToJson_eq_map, List.all_map, List.all_eq_true]
            intro branch listed
            obtain ⟨row, declared, made⟩ := List.mem_filterMap.mp listed
            obtain ⟨target, found, rfl⟩ := Option.map_eq_some_iff.mp made
            have step : graph.Follows node target :=
              (follows_iff_of_condition payload).mpr (.inr ⟨row, declared, found⟩)
            exact passes_branch (BranchRow.isUnicode_iff.mp (plain row declared)).2
              (inductionHypothesis target step step.mem_nodes)
          have module := passes_branchOne id default branches
          simpa [modulesToJson] using module

end Graph

/-- The schema of a flow: its names are those of the properties that are declared. -/
theorem passes_derive {options : Options} (dialect : options.dialect.isUnicode = true)
    {properties : List InputProperty}
    (named : ∀ property ∈ properties, property.name.isUnicode = true) :
    (InputSchema.derive options properties).toJson.passes number Text.isUnicode = true := by
  have entries : ∀ entry ∈ (schemaProperties properties).entries,
      entry.1.isUnicode = true ∧ entry.2.toJson.passes number Text.isUnicode = true := by
    intro entry member
    obtain ⟨property, declared, rfl⟩ := List.mem_map.mp (Keyed.mem_of_mem_entries_ofList member)
    simp [SchemaProperty.toJson, named property declared]
  have required : ∀ name ∈ requiredNames properties, name.isUnicode = true := by
    intro name member
    obtain ⟨property, flagged, rfl⟩ :=
      List.mem_map.mp (((listsFirsts_requiredNames properties).mem_iff name).mp member)
    exact named property (List.mem_filter.mp flagged).1
  have listed : ∀ name ∈ (InputSchema.derive options properties).required,
      name.isUnicode = true := by
    rw [InputSchema.derive]
    split
    · exact required
    · exact List.forall_mem_nil _
  simpa [InputSchema.toJson, InputSchema.derive, dialect] using And.intro entries listed

/-! ## Compilations -/

namespace Graph

variable {graph : Graph} {node : Node} {edge : Edge}

theorem Warns.passes_toJson (unicode : graph.toJson.isUnicode = true) (member : node ∈ graph.nodes)
    {warning : Warning} (warned : graph.Warns node warning) :
    warning.toJson.passes number Text.isUnicode = true := by
  obtain ⟨nodes, edges⟩ := isUnicode_iff.mp unicode
  obtain ⟨id, -, -, payload⟩ := Node.isUnicode_iff.mp (nodes node member)
  have kind : warning.kind.name.isUnicode = true := by cases warning <;> rfl
  rcases warned with isOwn | isLost
  · rcases mem_ownWarnings_iff.mp isOwn with ⟨_, _, _, _, rfl⟩ | ⟨-, ambiguous⟩
    · simp [Warning.toJson, kind, Warning.message, Warning.node, Warning.edgeId?, Warning.edge?, id]
    · obtain ⟨edge, second, others, outgoing, rfl⟩ := mem_ambiguities_iff.mp ambiguous
      have leaves : edge ∈ graph.outgoing node.id := outgoing ▸ List.mem_cons_self
      have edgeId := (Edge.isUnicode_iff.mp (edges edge (List.mem_filter.mp leaves).1)).1
      simp [Warning.toJson, kind, Warning.message, Warning.node, Warning.edgeId?, Warning.edge?, id,
        edgeId]
  · rcases lost_mem_ways_iff.mp isLost with
      ⟨edge, isFollowed, -, rfl⟩ | ⟨rows, isCondition, row, declared, -, rfl⟩
    · obtain ⟨edgeId, -, target, -⟩ :=
        Edge.isUnicode_iff.mp (edges edge (mem_edges_of_followed isFollowed))
      simp [Warning.toJson, kind, Warning.message, Warning.node, Warning.edgeId?, Warning.edge?, id,
        edgeId, target]
    · rw [isCondition, Payload.isUnicode_condition_iff] at payload
      have label := (BranchRow.isUnicode_iff.mp (payload row declared)).2.1
      simp [Warning.toJson, kind, Warning.message, Warning.node, Warning.edgeId?, Warning.edge?, id,
        label]

end Graph

theorem CompileError.passes_toJson {error : CompileError}
    (named : ∀ id ∈ error.nodes, id.isUnicode = true) :
    error.toJson.passes number Text.isUnicode = true := by
  have kind : error.kind.isUnicode = true := by cases error <;> rfl
  have message : error.message.isUnicode = true := by
    cases error with
    | noEntry => rfl
    | multipleEntries ids => simp [CompileError.message]
    | cycle ids =>
        rw [CompileError.message, Text.isUnicode_append, Text.isUnicode_ofString]
        exact Text.isUnicode_intercalate rfl named
  simpa [CompileError.toJson, kind, message] using named

namespace Graph

variable {graph : Graph} {options : Options} {summary description : Text}

/-- The ids that a compilation tells are ids of nodes, but for that of an input node where there is
no single one. -/
theorem mem_ids_of_mem_error {error : CompileError}
    (failed : (graph.compile options summary description).error? = some error) :
    error.nodes ⊆ graph.nodes.map Node.id := by
  cases error with
  | noEntry => exact List.nil_subset _
  | multipleEntries ids =>
      rw [nodes_of_multipleEntries options summary description failed rfl]
      exact List.map_subset _ fun node => mem_of_mem_inputs
  | cycle ids =>
      intro id member
      obtain ⟨_, target, step, same⟩ := exists_step_of_mem_cycle failed rfl member
      exact List.mem_map.mpr ⟨target, step.mem_nodes, same⟩

theorem compiled_subset_ids :
    (graph.compile options summary description).compiled ⊆ graph.nodes.map Node.id := by
  rcases graph.inputs_cases with noInput | ⟨entry, single⟩ | several
  · rw [compile_of_no_input options summary description noInput]
    exact List.nil_subset _
  · have member := mem_nodes_of_inputs single
    rw [compile_of_input options summary description single, walkFrom_of_mem member]
    dsimp only
    split
    · exact fun id => mem_ids_of_mem_compiled
    · exact List.nil_subset _
  · rw [compile_of_inputs options summary description several]
    exact List.nil_subset _

theorem entry_cases (graph : Graph) (options : Options) (summary description : Text) :
    (graph.compile options summary description).entry = "" ∨
      (graph.compile options summary description).entry ∈ graph.nodes.map Node.id := by
  rcases graph.inputs_cases with noInput | ⟨entry, single⟩ | several
  · rw [compile_of_no_input options summary description noInput]
    exact .inl rfl
  · rw [compile_of_input options summary description single]
    exact .inr (List.mem_map_of_mem (mem_nodes_of_inputs single))
  · rw [compile_of_inputs options summary description several]
    exact .inl rfl

variable (unicode : graph.toJson.isUnicode = true) (dialect : options.dialect.isUnicode = true)
  (summarized : summary.isUnicode = true) (described : description.isUnicode = true)
include unicode dialect summarized described

theorem passes_document {document : Document}
    (made : (graph.compile options summary description).document? = some document) :
    document.toJson.passes number Text.isUnicode = true := by
  have succeeded := Compilation.succeeded_iff_document?.mpr (made ▸ Option.isSome_some)
  obtain ⟨entry, single, completed⟩ := exists_entry_of_succeeded succeeded
  rw [document?_of_input options summary description single completed, Option.some_inj] at made
  subst made
  have member := mem_nodes_of_inputs single
  have modules : (arr (modulesToJson false (graph.walkFrom entry).modules)).passes number
      Text.isUnicode = true := (unfolds_modules member completed).passes unicode member
  have named : ∀ property ∈ entry.properties, property.name.isUnicode = true := by
    have payload := (Node.isUnicode_iff.mp ((isUnicode_iff.mp unicode).1 entry member)).2.2.2
    unfold Node.properties
    split
    · next properties isInput =>
      rw [isInput, Payload.isUnicode_input_iff] at payload
      exact fun property declared => (InputProperty.isUnicode_iff.mp (payload property declared)).2
    · exact List.forall_mem_nil _
  have schema : (InputSchema.derive options entry.properties).toJson.passes number
      Text.isUnicode = true := passes_derive dialect named
  simpa [Document.toJson, summarized, described, schema] using modules

theorem passes_compile :
    (graph.compile options summary description).toJson.passes number Text.isUnicode = true := by
  have ids : ∀ id ∈ graph.nodes.map Node.id, id.isUnicode = true := by
    intro id member
    obtain ⟨node, isNode, rfl⟩ := List.mem_map.mp member
    exact (Node.isUnicode_iff.mp ((isUnicode_iff.mp unicode).1 node isNode)).1
  have error : (graph.compile options summary description).errorJson.passes number
      Text.isUnicode = true := by
    rw [Compilation.errorJson]
    split
    · next error failed =>
      exact CompileError.passes_toJson fun id member => ids id (mem_ids_of_mem_error failed member)
    · rfl
  have warnings : (graph.compile options summary description).warningsJson.passes number
      Text.isUnicode = true := by
    rw [Compilation.warningsJson, passes_arr, List.all_map, List.all_eq_true]
    intro warning reported
    obtain ⟨node, member, warned⟩ := exists_warns_of_mem_warnings reported
    exact warned.passes_toJson unicode member
  have entry : (graph.compile options summary description).entry.isUnicode = true := by
    rcases graph.entry_cases options summary description with none | isId
    · rw [none]
      rfl
    · exact ids _ isId
  have compiled : ∀ id ∈ (graph.compile options summary description).compiled,
      id.isUnicode = true := fun id member => ids id (compiled_subset_ids member)
  rw [Compilation.toJson]
  simp only [passes_obj, List.all_cons, passes_bool, error, warnings, passes_str, entry, passes_int,
    passes_ofTexts, List.all_eq_true.mpr compiled]
  cases made : (graph.compile options summary description).document? with
  | none => rfl
  | some document =>
      have flow : document.toJson.passes number Text.isUnicode = true :=
        passes_document unicode dialect summarized described made
      simp [flow]

end Graph

/-! ## Issues -/

theorem Edge.isUnicode_label {edge : Edge} (unicode : edge.toJson.isUnicode = true) :
    edge.label.isUnicode = true := by
  obtain ⟨own, source, target, -⟩ := Edge.isUnicode_iff.mp unicode
  cases named : edge.id with
  | none => simp [label, named, source, target]
  | some id =>
      rw [named, Option.all_some] at own
      simp only [label, named]
      split
      · simp [source, target]
      · exact own

namespace Graph

variable {graph : Graph}

theorem isUnicode_message_of_mem_lint (unicode : graph.toJson.isUnicode = true) {issue : Issue}
    (present : issue ∈ graph.lint) : issue.message.isUnicode = true := by
  obtain ⟨nodes, edges⟩ := isUnicode_iff.mp unicode
  have ids : ∀ id ∈ graph.nodes.map Node.id, id.isUnicode = true := by
    intro id member
    obtain ⟨node, isNode, rfl⟩ := List.mem_map.mp member
    exact (Node.isUnicode_iff.mp (nodes node isNode)).1
  rcases mem_lint_iff.mp present with ⟨-, rfl⟩ | ⟨id, repeated, rfl⟩ | ofInputs |
    ⟨edge, isEdge, ofEdge⟩ | ⟨node, isNode, ofNode⟩
  · rfl
  · simp [Issue.message, ids id (repetitions_subset _ _ repeated)]
  · rcases mem_inputIssues_iff.mp ofInputs with ⟨-, rfl⟩ | ⟨-, rfl⟩
    · rfl
    · have inputs : ∀ id ∈ graph.inputs.map Node.id, id.isUnicode = true := fun id member =>
        ids id (List.map_subset _ (fun node => mem_of_mem_inputs) member)
      rw [Issue.message, Text.isUnicode_append, Text.isUnicode_ofString]
      exact Text.isUnicode_intercalate rfl inputs
  · have label := Edge.isUnicode_label (edges edge isEdge)
    obtain ⟨-, source, target, -⟩ := Edge.isUnicode_iff.mp (edges edge isEdge)
    rcases mem_edgeIssues_iff.mp ofEdge with ⟨-, rfl⟩ | ⟨-, rfl⟩ | ⟨-, rfl⟩ <;>
      simp [Issue.message, label, source, target]
  · have id := ids node.id (List.mem_map_of_mem isNode)
    rcases mem_nodeIssues_iff.mp ofNode with ⟨_, _, edge, leaves, -, rfl⟩ | ⟨-, -, rfl⟩
    · have handle := (Edge.isUnicode_iff.mp (edges edge (List.mem_filter.mp leaves).1)).2.2.2.1
      cases named : edge.sourceHandle with
      | none => simp [Issue.message, id]
      | some name => simpa [Issue.message, id, named] using handle
    · simp [Issue.message, id]

end Graph

/-! ## Tidied graphs and handles -/

mutual

/-- Once its numbers are finite, a value can be sent if no surrogate stands on its own in it. -/
theorem Json.isSendable_finite (value : Json) : value.finite.isSendable = value.isUnicode := by
  cases value with
  | float value =>
      rw [finite]
      split
      · assumption
      · rfl
  | arr items =>
      rw [finite, isSendable, isUnicode, passes, passes]
      exact itemsPass_finiteItems items
  | obj members =>
      rw [finite, isSendable, isUnicode, passes, passes]
      exact membersPass_finiteMembers members
  | _ => rfl

theorem Json.itemsPass_finiteItems (items : List Json) :
    itemsPass Binary64.isFinite Text.isUnicode (finiteItems items) =
      itemsPass (fun _ => true) Text.isUnicode items := by
  cases items with
  | nil => rfl
  | cons item rest =>
      have first := Json.isSendable_finite item
      rw [finiteItems, itemsPass, itemsPass, Json.itemsPass_finiteItems rest]
      exact congrArg (· && _) first

theorem Json.membersPass_finiteMembers (members : List (Text × Json)) :
    membersPass Binary64.isFinite Text.isUnicode (finiteMembers members) =
      membersPass (fun _ => true) Text.isUnicode members := by
  cases members with
  | nil => rfl
  | cons member rest =>
      obtain ⟨name, value⟩ := member
      have first := Json.isSendable_finite value
      rw [finiteMembers, membersPass, membersPass, Json.membersPass_finiteMembers rest]
      exact congrArg (fun passed => name.isUnicode && passed && _) first

end

theorem Payload.isUnicode_normalize {payload : Payload}
    (unicode : payload.toJson.isUnicode = true) : payload.normalize.toJson.isUnicode = true := by
  cases payload with
  | input properties =>
      rw [isUnicode_input_iff] at unicode
      exact isUnicode_input_iff.mpr fun property kept => unicode property (List.mem_filter.mp kept).1
  | action name bindings =>
      rw [isUnicode_action_iff] at unicode
      exact isUnicode_action_iff.mpr
        ⟨unicode.1, fun binding kept => unicode.2 binding (List.mem_filter.mp kept).1⟩
  | condition rows =>
      rw [isUnicode_condition_iff] at unicode
      exact isUnicode_condition_iff.mpr fun row kept => unicode row (List.mem_filter.mp kept).1

theorem Graph.isUnicode_normalize {graph : Graph} (unicode : graph.toJson.isUnicode = true) :
    graph.normalize.toJson.isUnicode = true := by
  obtain ⟨nodes, edges⟩ := isUnicode_iff.mp unicode
  refine isUnicode_iff.mpr ⟨?_, edges⟩
  intro node member
  obtain ⟨original, isNode, rfl⟩ := List.mem_map.mp member
  obtain ⟨id, type, names, payload⟩ := Node.isUnicode_iff.mp (nodes original isNode)
  exact Node.isUnicode_iff.mpr ⟨id, type, names, Payload.isUnicode_normalize payload⟩

theorem Node.passes_handle {node : Node} (unicode : node.toJson.isUnicode = true) {handle : Handle}
    (drawn : handle ∈ node.handles) : handle.toJson.passes number Text.isUnicode = true := by
  obtain ⟨-, -, -, payload⟩ := isUnicode_iff.mp unicode
  unfold handles at drawn
  split at drawn
  · next rows isCondition =>
    rw [isCondition, Payload.isUnicode_condition_iff] at payload
    rcases List.mem_cons.mp drawn with rfl | ofRow
    · rfl
    · obtain ⟨row, declared, rfl⟩ := List.mem_map.mp ofRow
      obtain ⟨id, label, -⟩ := BranchRow.isUnicode_iff.mp (payload row declared)
      simp [Handle.toJson, id, label]
  · obtain rfl := List.mem_singleton.mp drawn
    rfl

/-! ## Answers -/

namespace Response

def Tells (response : Response) (told : Json) : Prop :=
  response = .ok told

/-- Tells a value, if it can be sent. -/
def Sends (response : Response) (told : Json) : Prop :=
  told.isSendable = true → response.Tells told

theorem sends_send (told : Json) : (send told).Sends told := by
  intro sendable
  rw [Tells, send, if_pos sendable]

end Response

namespace Service

variable {request : FlowRequest}

theorem passes_compileFlow (unicode : request.IsUnicode) :
    (compileFlow request).passes number Text.isUnicode = true :=
  Graph.passes_compile unicode.graph rfl unicode.summary unicode.description

/-- A preview can be sent if what it shows can: its text is plain ASCII. -/
theorem passes_previewFlow (passed : (compileFlow request).passes number Text.isUnicode = true) :
    (previewFlow request).passes number Text.isUnicode = true := by
  let compilation := request.graph.compile options request.summary request.description
  have error : compilation.errorJson.passes number Text.isUnicode = true :=
    @passes_of_member? _ _ _ "error" _ passed rfl
  have warnings : compilation.warningsJson.passes number Text.isUnicode = true :=
    @passes_of_member? _ _ _ "warnings" _ passed rfl
  have status (status : Status) : status.name.isUnicode = true := by cases status <;> rfl
  rw [previewFlow]
  cases compilation.document? with
  | none => simp [compilation, error, warnings, status]
  | some document =>
      have plain := isUnicode_of_isAscii (document.isAscii_render (some settings.previewIndent))
      simp [compilation, error, warnings, status, plain]

theorem passes_validateFlow (unicode : request.IsUnicode) :
    (validateFlow request).passes number Text.isUnicode = true := by
  have messages : ∀ issue ∈ request.graph.lint, issue.message.isUnicode = true :=
    fun issue => Graph.isUnicode_message_of_mem_lint unicode.graph
  simpa [validateFlow] using messages

theorem isSendable_normalizeFlow (unicode : request.IsUnicode) :
    (normalizeFlow request).isSendable = true := by
  rw [normalizeFlow, isSendable_finite]
  exact Graph.isUnicode_normalize unicode.graph

/-- Whatever a route tells of a request without surrogates can be sent. -/
theorem isSendable_flow (unicode : request.IsUnicode) {flow : String × (FlowRequest → Json)}
    (isFlow : flow ∈ flowRoutes) : (flow.2 request).isSendable = true := by
  have compiled : (compileFlow request).isSendable = true := passes_compileFlow unicode
  simp only [flowRoutes, List.mem_cons, List.not_mem_nil, or_false] at isFlow
  rcases isFlow with rfl | rfl | rfl | rfl
  · exact compiled
  · exact passes_previewFlow compiled
  · exact isSendable_normalizeFlow unicode
  · exact passes_validateFlow unicode

theorem isSendable_tellHandles {node : Node} (unicode : node.toJson.isUnicode = true) :
    (tellHandles node).isSendable = true := by
  have handles : ∀ handle ∈ node.handles,
      handle.toJson.passes Binary64.isFinite Text.isUnicode = true :=
    fun handle => Node.passes_handle unicode
  simpa [tellHandles, isSendable] using handles

end Service

end Flowchart
