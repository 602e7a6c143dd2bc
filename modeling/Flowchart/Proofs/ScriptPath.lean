import Flowchart.Proofs.Anomaly
import Flowchart.Proofs.DocumentRoundTrip
import Flowchart.Proofs.Shape

/-!
The paths of the scripts in a written document. The name of an action becomes the path of its script
as it is, and only an absent one is left out, while an empty one is warned about just as well. So a
path is left out exactly where a warning tells of it, but for actions with an empty name.
-/

namespace Flowchart

namespace Json

/-- What lies behind names, each inside the one before. -/
def descend? (value : Json) : List Text → Option Json
  | [] => some value
  | name :: rest => (value.members?.bind (member? · name)).bind (descend? · rest)

@[simp]
theorem descend?_nil (value : Json) : value.descend? [] = some value := rfl

@[simp]
theorem descend?_obj (members : List (Text × Json)) (name : Text) (rest : List Text) :
    (obj members).descend? (name :: rest) = (member? members name).bind (descend? · rest) := rfl

/-- Whether a module stands at some depth of a list of written modules. -/
inductive Nests : List Json → Json → Prop where
  | here {modules : List Json} {module : Json} : module ∈ modules → Nests modules module
  | default {modules inner : List Json} {outer module : Json} :
      outer ∈ modules → outer.descend? ["value", "default"] = some (.arr inner) →
      Nests inner module → Nests modules module
  | branch {modules branches inner : List Json} {outer branch module : Json} :
      outer ∈ modules → outer.descend? ["value", "branches"] = some (.arr branches) →
      branch ∈ branches → branch.descend? ["modules"] = some (.arr inner) →
      Nests inner module → Nests modules module

/-- Whether a written module is a script. -/
def IsScript (module : Json) : Prop :=
  module.descend? ["value", "type"] = some (.str "script")

theorem Nests.cons {modules : List Json} {first module : Json} (nested : Nests modules module) :
    Nests (first :: modules) module := by
  cases nested with
  | here member => exact .here (List.mem_cons_of_mem first member)
  | default member behind nested => exact .default (List.mem_cons_of_mem first member) behind nested
  | branch member behind isBranch inside nested =>
      exact .branch (List.mem_cons_of_mem first member) behind isBranch inside nested

end Json

open Json

/-! ## Written modules and their places -/

section

variable (keepNull : Bool)

variable (id : Text) (summary : Option Text)

/-- The parts of a module lie in its value. -/
theorem descend?_value (value : Json) (names : List Text) :
    (obj (membersAround keepNull ("id", .str id) "summary" summary ("value", value))).descend?
      ("value" :: names) = value.descend? names := by
  rw [descend?_obj, member?_last_membersAround _ _ _ _ (by decide) (by decide), Option.bind_some]

theorem descend?_id (module : Module) :
    (module.toJson keepNull).descend? ["id"] = some (.str module.id) := by
  cases module <;> simp [Module.toJson, Module.id]

/-- The path of a script is left out exactly where there is none. -/
theorem descend?_path (path : Option Text) (transforms : Keyed Text) :
    ((Module.script id summary path transforms).toJson false).descend? ["value", "path"] =
      path.map .str := by
  rw [Module.toJson, descend?_value, descend?_obj]
  cases path <;> simp [membersAround, memberOfText?, member?, List.lookup_cons]

section

variable (default : List Module) (branches : List Branch)

theorem descend?_default :
    ((Module.branchOne id summary default branches).toJson keepNull).descend?
      ["value", "default"] = some (.arr (modulesToJson keepNull default)) := by
  rw [Module.toJson, descend?_value]
  rfl

theorem descend?_branches :
    ((Module.branchOne id summary default branches).toJson keepNull).descend?
      ["value", "branches"] = some (.arr (branchesToJson keepNull branches)) := by
  rw [Module.toJson, descend?_value]
  rfl

end

/-- Only a branch module has more in its value than a script. -/
theorem exists_branchOne_of_descend? {module : Module} {name : Text} {json : Json}
    (isOther : name ∉ (["type", "path", "input_transforms"] : List Text))
    (inside : (module.toJson keepNull).descend? ["value", name] = some json) :
    ∃ id summary default branches, module = .branchOne id summary default branches := by
  cases module with
  | script id summary path transforms =>
      simp only [List.mem_cons, List.not_mem_nil, or_false, not_or] at isOther
      obtain ⟨notType, notPath, notTransforms⟩ := isOther
      rw [Module.toJson, descend?_value, descend?_obj] at inside
      cases path <;> cases keepNull <;>
        simp [membersAround, memberOfText?, member?, lookup_cons_of_ne, notType, notPath,
          notTransforms] at inside
  | branchOne id summary default branches => exact ⟨id, summary, default, branches, rfl⟩

theorem descend?_modules (branch : Branch) :
    (branch.toJson keepNull).descend? ["modules"] =
      some (.arr (modulesToJson keepNull branch.modules)) := by
  cases branch
  rfl

theorem isScript_iff {keepNull : Bool} {module : Module} :
    (module.toJson keepNull).IsScript ↔ module.isScript = true := by
  cases module with
  | script id summary path transforms =>
      rw [IsScript, Module.toJson, descend?_value, descend?_obj, member?_first_membersAround]
      simp [Module.isScript]
  | branchOne id summary default branches =>
      rw [IsScript, Module.toJson, descend?_value]
      simp [Module.isScript, member?]

end

section

variable {modules before left after : List Module} {module : Module} {json : Json}

theorem Place.behind (earlier : List Module) (place : Place modules before left) :
    Place (earlier ++ modules) (earlier ++ before) left := by
  induction earlier with
  | nil => exact place
  | cons first rest inductionHypothesis => exact .next inductionHypothesis

/-- Places in a module of a list are places in the list. -/
theorem Place.of_mem (member : module ∈ modules)
    (place : ∀ rest, Place (module :: rest) before left) : ∃ before, Place modules before left := by
  obtain ⟨earlier, later, rfl⟩ := List.append_of_mem member
  exact ⟨earlier ++ before, (place later).behind earlier⟩

theorem Json.Nests.exists_place {keepNull : Bool}
    (nested : Nests (modulesToJson keepNull modules) json) :
    ∃ before module after, Place modules before (module :: after) ∧
      json = module.toJson keepNull := by
  generalize written : modulesToJson keepNull modules = values at nested
  induction nested generalizing modules with
  | here member =>
      rw [← written, modulesToJson_eq_map] at member
      obtain ⟨module, isHere, rfl⟩ := List.mem_map.mp member
      obtain ⟨earlier, later, rfl⟩ := List.append_of_mem isHere
      exact ⟨_, module, later, Place.here.behind earlier, rfl⟩
  | default member behind _ inductionHypothesis =>
      rw [← written, modulesToJson_eq_map] at member
      obtain ⟨outer, isHere, rfl⟩ := List.mem_map.mp member
      obtain ⟨id, summary, default, branches, rfl⟩ :=
        exists_branchOne_of_descend? _ (by decide) behind
      rw [descend?_default, Option.some.injEq, Json.arr.injEq] at behind
      obtain ⟨before, module, after, place, same⟩ := inductionHypothesis behind
      obtain ⟨before, place⟩ := Place.of_mem isHere fun _ => .default place
      exact ⟨before, module, after, place, same⟩
  | branch member behind isBranch inside _ inductionHypothesis =>
      rw [← written, modulesToJson_eq_map] at member
      obtain ⟨outer, isHere, rfl⟩ := List.mem_map.mp member
      obtain ⟨id, summary, default, branches, rfl⟩ :=
        exists_branchOne_of_descend? _ (by decide) behind
      rw [descend?_branches, Option.some.injEq, Json.arr.injEq] at behind
      rw [← behind, branchesToJson_eq_map] at isBranch
      obtain ⟨branch, declared, rfl⟩ := List.mem_map.mp isBranch
      rw [descend?_modules, Option.some.injEq, Json.arr.injEq] at inside
      obtain ⟨before, module, after, place, same⟩ := inductionHypothesis inside
      obtain ⟨before, place⟩ := Place.of_mem isHere fun _ => .branch declared place
      exact ⟨before, module, after, place, same⟩

theorem Place.nests (keepNull : Bool) (place : Place modules before (module :: after)) :
    Nests (modulesToJson keepNull modules) (module.toJson keepNull) := by
  generalize isLeft : module :: after = left at place
  induction place with
  | here =>
      subst isLeft
      exact .here List.mem_cons_self
  | next _ inductionHypothesis => exact (inductionHypothesis isLeft).cons
  | default _ inductionHypothesis =>
      exact .default List.mem_cons_self (descend?_default ..) (inductionHypothesis isLeft)
  | branch declared _ inductionHypothesis =>
      apply Nests.branch List.mem_cons_self (descend?_branches ..) _ (descend?_modules ..)
      · exact inductionHypothesis isLeft
      · rw [branchesToJson_eq_map]
        exact List.mem_map_of_mem declared

/-- The modules at any depth of what is written are the written modules at the places. -/
theorem nests_modulesToJson_iff {keepNull : Bool} :
    Nests (modulesToJson keepNull modules) json ↔
      ∃ before module after, Place modules before (module :: after) ∧
        json = module.toJson keepNull := by
  constructor
  · exact Nests.exists_place
  · rintro ⟨before, module, after, place, rfl⟩
    exact place.nests keepNull

end

/-- Whether a module stands at some depth of a document as it is written. -/
def Document.Shows (document : Document) (module : Json) : Prop :=
  ∃ modules, document.toJson.descend? ["value", "modules"] = some (.arr modules) ∧
    Nests modules module

theorem Document.shows_iff {document : Document} {json : Json} :
    document.Shows json ↔
      ∃ before module after, Place document.modules before (module :: after) ∧
        json = module.toJson false := by
  have written : document.toJson.descend? ["value", "modules"] =
      some (.arr (modulesToJson false document.modules)) := rfl
  simp [Shows, written, nests_modulesToJson_iff]

namespace Graph

variable {graph : Graph} {node entry : Node} {modules before after : List Module} {module : Module}

/-! ## Where a script comes from -/

theorem exists_action_of_head {below : Node → List Module}
    (own : IsModuleOf node module) (isScript : module.isScript = true)
    (here : graph.unroll below node = module :: after) :
    ∃ name bindings, node.payload = .action name bindings ∧
      module = scriptModule node.id name bindings := by
  have isAction : node.kind = .action := by rw [own.2, isScript, if_pos rfl]
  cases payload : node.payload with
  | input => simp [Node.kind, payload, Payload.kind] at isAction
  | action name bindings =>
      simp only [unroll, payload, List.cons.injEq, ← Keyed.ofList_eq_ofLastGiven] at here
      exact ⟨name, bindings, rfl, here.1.symm⟩
  | condition => simp [Node.kind, payload, Payload.kind] at isAction

/-- A script is the module of an action that is reached. -/
theorem Unfolds.exists_action_of_place (unfolded : graph.Unfolds graph.unroll node modules)
    (place : Place modules before (module :: after)) (isScript : module.isScript = true) :
    ∃ action name bindings, graph.Reaches node action ∧
      action.payload = .action name bindings ∧
      module = scriptModule action.id name bindings := by
  obtain ⟨action, below, reached, own, -, unrolled⟩ := unfolded.exists_origin_of_place place
  obtain ⟨name, bindings, payload, made⟩ := exists_action_of_head own isScript unrolled
  exact ⟨action, name, bindings, reached, payload, made⟩

/-! ## What is told of it -/

/-- Whether some warning tells that the action of an id is incomplete. -/
def TellsIncomplete (warnings : List Warning) (id : Text) : Prop :=
  ∃ warning ∈ warnings, warning.kind = .incompleteAction ∧ warning.node = id

theorem tellsIncomplete_iff_report {warnings : List Warning} {id : Text} :
    TellsIncomplete warnings id ↔
      ∃ report ∈ warnings.map Warning.report, report.1 = .incompleteAction ∧ report.2.1 = id := by
  simp [TellsIncomplete, Warning.report]

theorem kind_eq_incompleteAction_iff {anomaly : Anomaly} :
    anomaly.kind = .incompleteAction ↔ anomaly = .incompleteAction := by
  cases anomaly <;> simp [Anomaly.kind]

/-- The incomplete actions that are told are those that are reached. -/
theorem tellsIncomplete_warnings_iff (member : entry ∈ graph.nodes)
    (completed : (graph.walkFrom entry).completes = true) {id : Text} :
    TellsIncomplete (graph.walkFrom entry).warnings id ↔
      ∃ action, graph.Reaches entry action ∧ graph.HasAnomaly action .incompleteAction ∧
        action.id = id := by
  obtain ⟨found, unfolded, reports⟩ := exists_findings_of_completes member completed
  rw [tellsIncomplete_iff_report, reports]
  constructor
  · rintro ⟨_, isReport, kind, named⟩
    obtain ⟨finding, isFound, rfl⟩ := List.mem_map.mp isReport
    obtain ⟨reached, present⟩ :=
      (mem_findings_iff unfolded finding).mp (List.mem_eraseDups.mp isFound)
    rw [kind_eq_incompleteAction_iff.mp kind] at present
    exact ⟨finding.node, reached, present, named⟩
  · rintro ⟨action, reached, present, named⟩
    refine ⟨Finding.report ⟨action, .incompleteAction⟩, ?_, rfl, named⟩
    apply List.mem_map_of_mem
    exact List.mem_eraseDups.mpr ((mem_findings_iff unfolded _).mpr ⟨reached, present⟩)

/-- A reached action is told to be incomplete exactly if its name is absent or empty. -/
theorem tellsIncomplete_iff_of_reaches (member : entry ∈ graph.nodes)
    (completed : (graph.walkFrom entry).completes = true) {action : Node} {name : Option Text}
    {bindings : List Binding} (reached : graph.Reaches entry action)
    (payload : action.payload = .action name bindings) :
    TellsIncomplete (graph.walkFrom entry).warnings action.id ↔ name = none ∨ name = some "" := by
  rw [tellsIncomplete_warnings_iff member completed]
  constructor
  · rintro ⟨other, reachedToo, ⟨otherName, otherBindings, otherPayload, unnamed⟩, named⟩
    -- The warning holds an id alone; of the nodes reached, only one has it.
    obtain rfl : other = action :=
      eq_of_reaches ((completes_walkFrom_iff member).mp completed) reachedToo reached named
    rw [payload, Payload.action.injEq] at otherPayload
    rwa [otherPayload.1]
  · intro unnamed
    exact ⟨action, reached, ⟨name, bindings, payload, unnamed⟩, rfl⟩

/-- Whether a written script has no path exactly if its action is told to be incomplete. -/
def IsUnsetIffTold (warnings : List Warning) (script : Json) : Prop :=
  ∃ id, script.descend? ["id"] = some (.str id) ∧
    (script.descend? ["value", "path"] = none ↔ TellsIncomplete warnings id)

theorem isUnsetIffTold_iff {warnings : List Warning} {script : Json} {id : Text}
    {name : Option Text} (named : script.descend? ["id"] = some (.str id))
    (path : script.descend? ["value", "path"] = name.map .str)
    (told : TellsIncomplete warnings id ↔ name = none ∨ name = some "") :
    IsUnsetIffTold warnings script ↔ name ≠ some "" := by
  simp only [IsUnsetIffTold, named, path, Option.some.injEq, Json.str.injEq, exists_eq_left', told,
    Option.map_eq_none_iff]
  cases name <;> simp

/-- Each script of a document that comes of a graph, at any depth, is that of a reached action. Its
path is the name of the action as it is, and it is warned about if this name is absent or empty. So
it has no path exactly if it is warned about, unless the name is empty. -/
theorem compile_script_paths {options : Options} {summary description : Text}
    (succeeded : (graph.compile options summary description).succeeded = true) :
    let warnings := (graph.compile options summary description).warnings
    ∃ entry document, graph.inputs = [entry] ∧
      (graph.compile options summary description).document? = some document ∧
      ∀ script, document.Shows script → script.IsScript →
        ∃ action name bindings, graph.Reaches entry action ∧
          action.payload = .action name bindings ∧
          script.descend? ["id"] = some (.str action.id) ∧
          script.descend? ["value", "path"] = name.map .str ∧
          (TellsIncomplete warnings action.id ↔ name = none ∨ name = some "") ∧
          (IsUnsetIffTold warnings script ↔ name ≠ some "") := by
  intro warnings
  obtain ⟨entry, single, completed⟩ := exists_entry_of_succeeded succeeded
  have member := mem_nodes_of_inputs single
  have walked : warnings = (graph.walkFrom entry).warnings := by
    simp only [warnings, compile_of_input options summary description single]
  refine ⟨entry, _, single, document?_of_input options summary description single completed, ?_⟩
  intro script shown isScript
  obtain ⟨before, module, after, place, rfl⟩ := Document.shows_iff.mp shown
  obtain ⟨action, name, bindings, reached, payload, rfl⟩ :=
    (unfolds_modules member completed).exists_action_of_place place (isScript_iff.mp isScript)
  have named := descend?_id false (scriptModule action.id name bindings)
  have path : ((scriptModule action.id name bindings).toJson false).descend? ["value", "path"] =
      name.map .str := descend?_path ..
  have told := walked ▸ tellsIncomplete_iff_of_reaches member completed reached payload
  exact ⟨action, name, bindings, reached, payload, named, path, told,
    isUnsetIffTold_iff named path told⟩

theorem forked_script_paths :
    (forked.compile .default "" "").succeeded = true ∧
      let warnings := (forked.compile .default "" "").warnings
      ∃ entry document, forked.inputs = [entry] ∧
        (forked.compile .default "" "").document? = some document ∧
        ∀ script, document.Shows script → script.IsScript →
          ∃ action name bindings, forked.Reaches entry action ∧
            action.payload = .action name bindings ∧
            script.descend? ["id"] = some (.str action.id) ∧
            script.descend? ["value", "path"] = name.map .str ∧
            (TellsIncomplete warnings action.id ↔ name = none ∨ name = some "") ∧
            (IsUnsetIffTold warnings script ↔ name ≠ some "") := by
  have succeeded : (forked.compile .default "" "").succeeded = true := by decide +kernel
  exact ⟨succeeded, compile_script_paths succeeded⟩

/-- An action with an empty name behind an input node. -/
def emptyNamed : Graph where
  nodes := [⟨"input", none, .empty, .input []⟩, ⟨"a", none, .empty, .action (some "") []⟩]
  edges := [edge "input" "a" none]

/-- An action with an empty name is told to be incomplete, and its script has a path all the same. -/
theorem emptyNamed_path_set :
    (emptyNamed.compile .default "" "").succeeded = true ∧
      ∃ document script, (emptyNamed.compile .default "" "").document? = some document ∧
        document.Shows script ∧ script.IsScript ∧
        script.descend? ["value", "path"] = some (.str "") ∧
        ¬IsUnsetIffTold (emptyNamed.compile .default "" "").warnings script := by
  let script := scriptModule "a" (some "") []
  have warned : (emptyNamed.compile .default "" "").warnings = [.incompleteAction "a"] := by
    decide +kernel
  have path : (script.toJson false).descend? ["value", "path"] = some (.str "") :=
    descend?_path ..
  refine ⟨by decide +kernel, ⟨"", "", [script], ⟨defaultDialect, .empty, []⟩⟩,
    script.toJson false, ?_, ?_, isScript_iff.mpr rfl, path, ?_⟩
  · with_unfolding_all rfl
  · exact Document.shows_iff.mpr ⟨[], script, [], .here, rfl⟩
  · rintro ⟨id, named, unset⟩
    obtain rfl : "a" = id := by simpa [script, scriptModule, Module.id, descend?_id] using named
    have absent := unset.mpr ⟨.incompleteAction "a", by simp [warned], rfl, rfl⟩
    rw [path] at absent
    exact Option.some_ne_none _ absent

end Graph

end Flowchart
