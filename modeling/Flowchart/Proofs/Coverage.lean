import Flowchart.Proofs.Listing
import Flowchart.Proofs.Route

/-!
What a compilation covers. The nodes compiled are those of the modules, in preorder: every node
before what follows it, the default of a condition before its branches. A node is compiled once for
every route that leads to it, so none that is reached is left out and no other one comes in.
-/

namespace Flowchart

mutual

/-- The ids of a module and of all modules within it, in preorder. -/
def Module.ids : Module → List Text
  | .script id .. => [id]
  | .branchOne id _ default branches => id :: (moduleIds default ++ branchIds branches)

def moduleIds : List Module → List Text
  | [] => []
  | first :: rest => first.ids ++ moduleIds rest

def branchIds : List Branch → List Text
  | [] => []
  | .mk _ _ modules :: rest => moduleIds modules ++ branchIds rest

end

theorem branchIds_filterMap {α : Type} (rows : List BranchRow) (target? : BranchRow → Option α)
    (below : α → List Module) :
    branchIds (rows.filterMap fun row => (target? row).map fun target =>
        .mk row.label row.expression (below target)) =
      (rows.filterMap target?).flatMap fun target => moduleIds (below target) := by
  induction rows with
  | nil => rfl
  | cons row rest inductionHypothesis =>
      cases found : target? row with
      | none => simpa [found] using inductionHypothesis
      | some target => simpa [found, branchIds] using inductionHypothesis

/-- The id under which a node is compiled; an input node is not. -/
def Node.compiledId? (node : Node) : Option Text :=
  if node.isInput then none else some node.id

theorem Node.compiledId?_eq_some_iff {node : Node} {id : Text} :
    node.compiledId? = some id ↔ node.isInput = false ∧ node.id = id := by
  cases input : node.isInput <;> simp [compiledId?, input]

theorem flatMap_filterMap {α β γ : Type} (list : List α) (pick? : α → Option β)
    (further : β → List γ) :
    (list.filterMap pick?).flatMap further =
      list.flatMap fun item => (pick? item).elim [] further := by
  induction list with
  | nil => rfl
  | cons item rest inductionHypothesis =>
      cases picked : pick? item <;> simp [picked, inductionHypothesis]

namespace Graph

/-- All nodes of an unfolding, each before those that follow it. -/
def visits (graph : Graph) : (Node → List Node) → Node → List Node :=
  graph.listing (fun node => [node]) fun _ _ => []

/-- The ids under which the nodes of an unfolding are compiled. -/
def compiledIds (graph : Graph) : (Node → List Text) → Node → List Text :=
  graph.listing (fun node => node.compiledId?.toList) fun _ _ => []

/-- All routes from a node, by those from the nodes that follow it. -/
def routes (graph : Graph) (below : Node → List Route) (node : Node) : List Route :=
  [] :: node.choices.flatMap fun choice =>
    ((graph.choose? node choice).elim [] below).map (choice :: ·)

variable {graph : Graph} {node : Node}

theorem listing_targets {α : Type} (own below : Node → List α) (node : Node) :
    graph.listing own (fun _ _ => []) below node =
      own node ++ (graph.targets node).flatMap below := by
  rw [listing, targets, flatMap_filterMap]
  congr 2
  funext way
  cases way <;> rfl

theorem moduleIds_unroll (below : Node → List Module) (node : Node) :
    moduleIds (graph.unroll below node) =
      graph.compiledIds (fun target => moduleIds (below target)) node := by
  have behind (target? : Option Node) : moduleIds (target?.elim [] below) =
      target?.toList.flatMap fun target => moduleIds (below target) := by
    cases target? <;> simp [moduleIds]
  rw [compiledIds, listing_targets]
  cases payload : node.payload with
  | input properties =>
      rw [targets_of_linear (by simp [Node.kind, payload, Payload.kind])]
      simp [unroll, payload, behind, Node.compiledId?, Node.isInput, Node.kind, Payload.kind]
  | action name bindings =>
      rw [targets_of_linear (by simp [Node.kind, payload, Payload.kind])]
      simp [unroll, payload, moduleIds, Module.ids, behind, Node.compiledId?, Node.isInput,
        Node.kind, Payload.kind]
  | condition rows =>
      rw [targets_of_condition payload, List.flatMap_append]
      simp [unroll, payload, moduleIds, Module.ids, behind, branchIds_filterMap, Node.compiledId?,
        Node.isInput, Node.kind, Payload.kind]

section

variable {all : List Route}

theorem mem_routes_iff (unfolded : graph.Unfolds graph.routes node all) (route : Route) :
    route ∈ all ↔ ∃ target, graph.lead? node route = some target := by
  induction unfolded generalizing route with
  | @node node below each inductionHypothesis =>
      cases route with
      | nil => simp [routes, lead?]
      | cons choice route =>
          have chosen_iff : choice :: route ∈ graph.routes below node ↔
              ∃ next, graph.choose? node choice = some next ∧ route ∈ below next := by
            cases chosen : graph.choose? node choice with
            | none => simp [routes, chosen]
            | some next => simp [routes, chosen, mem_choices_of_choose? chosen]
          rw [chosen_iff]
          simp only [lead?_cons_iff]
          constructor
          · rintro ⟨next, chosen, further⟩
            have step := follows_of_choose? chosen
            obtain ⟨target, leads⟩ := (inductionHypothesis next step route).mp further
            exact ⟨target, next, chosen, leads⟩
          · rintro ⟨target, next, chosen, leads⟩
            have step := follows_of_choose? chosen
            exact ⟨next, chosen, (inductionHypothesis next step route).mpr ⟨target, leads⟩⟩

theorem nodup_routes (unfolded : graph.Unfolds graph.routes node all) : all.Nodup := by
  induction unfolded with
  | @node node below each inductionHypothesis =>
      rw [routes, List.nodup_cons, List.nodup_flatMap]
      refine ⟨by simp, ?_, ?_⟩
      · intro choice _
        cases chosen : graph.choose? node choice with
        | none => exact List.nodup_nil
        | some next =>
            have step := follows_of_choose? chosen
            exact (inductionHypothesis next step).map (List.cons_injective)
      · -- Routes that start with different choices differ.
        refine node.nodup_choices.imp fun {first second} differ => ?_
        intro route isFirst isSecond
        obtain ⟨_, -, rfl⟩ := List.mem_map.mp isFirst
        obtain ⟨_, -, same⟩ := List.mem_map.mp isSecond
        exact differ (List.cons.inj same).1.symm

/-- The ends of all routes are the nodes of the unfolding, in order. -/
theorem Unfolds.visits_of_routes (unfolded : graph.Unfolds graph.routes node all) :
    graph.Unfolds graph.visits node (all.filterMap (graph.lead? node)) := by
  apply unfolded.image fun node all => all.filterMap (graph.lead? node)
  intro below node
  rw [visits, listing_targets, targets_eq_choices, flatMap_filterMap, routes, List.filterMap_cons,
    List.filterMap_flatMap]
  simp only [lead?, List.singleton_append]
  congr 2
  funext choice
  cases chosen : graph.choose? node choice with
  | none => rfl
  | some next =>
      rw [Option.elim_some, Option.elim_some, List.filterMap_map]
      congr 1
      funext route
      simp [lead?, chosen]

theorem Unfolds.compiledIds_of_visits {visited : List Node}
    (unfolded : graph.Unfolds graph.visits node visited) :
    graph.Unfolds graph.compiledIds node (visited.filterMap Node.compiledId?) := by
  have picked := unfolded.filterMap Node.compiledId?
  have alone : (fun node => [node].filterMap Node.compiledId?) =
      fun node => node.compiledId?.toList := by
    funext node
    cases compiled : node.compiledId? <;> simp [compiled]
  rw [alone] at picked
  exact picked

end

section

variable {entry : Node} (member : entry ∈ graph.nodes)
  (completed : (graph.walkFrom entry).completes = true)
include member completed

theorem unfolds_compiled :
    graph.Unfolds graph.compiledIds entry (graph.walkFrom entry).compiled := by
  have picked := (unfolds_log member completed).filterMap Note.compiled?
  have opened : (fun node => (graph.opening node).filterMap Note.compiled?) =
      fun node => node.compiledId?.toList := by
    funext node
    rw [opening, List.filterMap_append, List.filterMap_map]
    cases input : node.isInput <;> simp [Node.compiledId?, input, Note.compiled?, Function.comp_def]
  rw [opened] at picked
  rw [Trace.compiled_eq]
  exact picked

theorem compiled_eq_moduleIds :
    (graph.walkFrom entry).compiled = moduleIds (graph.walkFrom entry).modules := by
  have listed := (unfolds_modules member completed).image (fun _ => moduleIds) moduleIds_unroll
  exact (unfolds_compiled member completed).unique (isLocal_listing _ _) listed

theorem exists_routes :
    ∃ all, graph.Unfolds graph.routes entry all ∧
      (graph.walkFrom entry).compiled =
        all.filterMap fun route => (graph.lead? entry route).bind Node.compiledId? := by
  have compiled := unfolds_compiled member completed
  obtain ⟨all, unfolded⟩ := compiled.exists_value graph.routes
  have again := unfolded.visits_of_routes.compiledIds_of_visits
  rw [List.filterMap_filterMap] at again
  exact ⟨all, unfolded, compiled.unique (isLocal_listing _ _) again⟩

/-- An id is compiled once for every route to a node that has it. -/
theorem exists_routes_to (id : Text) :
    ∃ routes : List Route, routes.Nodup ∧
      (∀ route, route ∈ routes ↔
        ∃ node, graph.lead? entry route = some node ∧ node.isInput = false ∧ node.id = id) ∧
      (graph.walkFrom entry).compiled.count id = routes.length := by
  obtain ⟨all, unfolded, compiled⟩ := exists_routes member completed
  refine ⟨all.filter fun route => (graph.lead? entry route).bind Node.compiledId? == some id,
    (nodup_routes unfolded).filter _, ?_, ?_⟩
  · intro route
    rw [List.mem_filter, beq_iff_eq, Option.bind_eq_some_iff, mem_routes_iff unfolded]
    simp only [Node.compiledId?_eq_some_iff]
    constructor
    · rintro ⟨-, leads⟩
      exact leads
    · rintro ⟨target, leads, named⟩
      exact ⟨⟨target, leads⟩, target, leads, named⟩
  · rw [compiled, List.count_filterMap, List.countP_eq_length_filter]

end

/-- The nodes compiled are those of the modules in preorder, and each is there once for every route
that leads to it from the input node. -/
theorem compile_coverage {options : Options} {summary description : Text}
    (succeeded : (graph.compile options summary description).succeeded = true) :
    let compilation := graph.compile options summary description
    ∃ entry document, graph.inputs = [entry] ∧
      compilation.document? = some document ∧
      compilation.compiled = moduleIds document.modules ∧
      ∀ id,
        (∃ routes : List Route, routes.Nodup ∧
          (∀ route, route ∈ routes ↔ ∃ node,
            graph.lead? entry route = some node ∧ node.isInput = false ∧ node.id = id) ∧
          compilation.compiled.count id = routes.length) ∧
        (id ∈ compilation.compiled ↔
          ∃ node, graph.Reaches entry node ∧ node.isInput = false ∧ node.id = id) := by
  intro compilation
  obtain ⟨entry, single, completed⟩ := exists_entry_of_succeeded succeeded
  have member := mem_nodes_of_inputs single
  have compiled : compilation.compiled = (graph.walkFrom entry).compiled := by
    simp only [compilation, compile_of_input options summary description single, completed, if_true]
  refine ⟨entry, _, single, document?_of_input options summary description single completed, ?_, ?_⟩
  · rw [compiled]
    exact compiled_eq_moduleIds member completed
  · intro id
    obtain ⟨routes, distinct, leading, counted⟩ := exists_routes_to member completed id
    rw [compiled]
    refine ⟨⟨routes, distinct, leading, counted⟩, ?_⟩
    rw [← List.count_pos_iff, counted, List.length_pos_iff_exists_mem]
    simp only [leading, reaches_iff_exists_route]
    constructor
    · rintro ⟨route, node, leads, named⟩
      exact ⟨node, ⟨route, leads⟩, named⟩
    · rintro ⟨node, ⟨route, leads⟩, named⟩
      exact ⟨route, node, leads, named⟩

theorem forked_coverage :
    (forked.compile .default "" "").succeeded = true ∧
      let compilation := forked.compile .default "" ""
      ∃ entry document, forked.inputs = [entry] ∧
        compilation.document? = some document ∧
        compilation.compiled = moduleIds document.modules ∧
        ∀ id,
          (∃ routes : List Route, routes.Nodup ∧
            (∀ route, route ∈ routes ↔ ∃ node,
              forked.lead? entry route = some node ∧ node.isInput = false ∧ node.id = id) ∧
            compilation.compiled.count id = routes.length) ∧
          (id ∈ compilation.compiled ↔
            ∃ node, forked.Reaches entry node ∧ node.isInput = false ∧ node.id = id) := by
  have succeeded : (forked.compile .default "" "").succeeded = true := by decide +kernel
  exact ⟨succeeded, compile_coverage succeeded⟩

-- Two of the ways out of the condition lead to both actions, a third one to the last alone.
example : (forked.compile .default "" "").compiled =
    ["check", "send", "done", "send", "done", "done"] := by decide +kernel

end Graph

end Flowchart
