import Flowchart.Proofs.Coverage

/-!
The shape of a compiled document. A place in it is a stop on the way through its nested lists; the
modules on the way to a place come from a chain of followed steps. So no module comes twice on a
way, the input node does not come at all, and after a branch module its list is at an end.
-/

namespace Flowchart

/-- A place in nested lists of modules: on the way to it come the modules `before`, those of its own
list and those of the lists around it, and `left` is what its list holds from there on. -/
inductive Place : List Module → List Module → List Module → Prop where
  | here {modules : List Module} : Place modules [] modules
  | next {first : Module} {rest before left : List Module} :
      Place rest before left → Place (first :: rest) (first :: before) left
  | default {id : Text} {summary : Option Text} {default : List Module}
      {branches : List Branch} {rest before left : List Module} :
      Place default before left →
      Place (.branchOne id summary default branches :: rest)
        (.branchOne id summary default branches :: before) left
  | branch {id : Text} {summary : Option Text} {default : List Module}
      {branches : List Branch} {branch : Branch} {rest before left : List Module} :
      branch ∈ branches → Place branch.modules before left →
      Place (.branchOne id summary default branches :: rest)
        (.branchOne id summary default branches :: before) left

/-- Whether there is a place with a module of some id. -/
def HoldsId (modules : List Module) (id : Text) : Prop :=
  ∃ before module after, Place modules before (module :: after) ∧ module.id = id

theorem HoldsId.next {first : Module} {rest : List Module} {id : Text}
    (held : HoldsId rest id) : HoldsId (first :: rest) id := by
  obtain ⟨before, module, after, place, named⟩ := held
  exact ⟨first :: before, module, after, .next place, named⟩

mutual

theorem holdsId_of_mem_ids {id : Text} : (module : Module) → (rest : List Module) →
    id ∈ module.ids → HoldsId (module :: rest) id
  | .script own summary path transforms, rest, member => by
      obtain rfl : id = own := by simpa [Module.ids] using member
      exact ⟨[], _, rest, .here, rfl⟩
  | .branchOne own summary default branches, rest, member => by
      rw [Module.ids, List.mem_cons, List.mem_append] at member
      rcases member with rfl | inDefault | inBranches
      · exact ⟨[], _, rest, .here, rfl⟩
      · obtain ⟨before, module, after, place, named⟩ := holdsId_of_mem_moduleIds default inDefault
        exact ⟨_, module, after, .default place, named⟩
      · obtain ⟨branch, declared, before, module, after, place, named⟩ :=
          exists_branch_of_mem_branchIds branches inBranches
        exact ⟨_, module, after, .branch declared place, named⟩

theorem holdsId_of_mem_moduleIds {id : Text} : (modules : List Module) →
    id ∈ moduleIds modules → HoldsId modules id
  | [], member => absurd member List.not_mem_nil
  | first :: rest, member => by
      rw [moduleIds, List.mem_append] at member
      rcases member with inFirst | inRest
      · exact holdsId_of_mem_ids first rest inFirst
      · exact (holdsId_of_mem_moduleIds rest inRest).next

theorem exists_branch_of_mem_branchIds {id : Text} : (branches : List Branch) →
    id ∈ branchIds branches → ∃ branch ∈ branches, HoldsId branch.modules id
  | [], member => absurd member List.not_mem_nil
  | .mk summary expression modules :: rest, member => by
      rw [branchIds, List.mem_append] at member
      rcases member with inFirst | inRest
      · exact ⟨_, List.mem_cons_self, holdsId_of_mem_moduleIds modules inFirst⟩
      · obtain ⟨branch, declared, held⟩ := exists_branch_of_mem_branchIds rest inRest
        exact ⟨branch, List.mem_cons_of_mem _ declared, held⟩

end

namespace Graph

variable {graph : Graph} {node : Node} {before after : List Module} {module : Module}

/-- Whether a module is of the kind that a node is compiled to, under the id of the node. -/
def IsModuleOf (node : Node) (module : Module) : Prop :=
  module.id = node.id ∧ node.kind = if module.isScript then .action else .condition

theorem IsModuleOf.isInput_eq_false (own : IsModuleOf node module) : node.isInput = false := by
  cases script : module.isScript <;> simp [Node.isInput, own.2, script]

theorem exists_target_of_place {below : Node → List Module} {target? : Option Node}
    (place : Place (target?.elim [] below) before (module :: after)) :
    ∃ target, target? = some target ∧ Place (below target) before (module :: after) := by
  cases target? with
  | none => cases place
  | some target => exact ⟨target, rfl, place⟩

/-- A place in what a node unrolls to is that of the node's own module, or it lies behind a node
that follows; then the way to it starts with the node. -/
theorem place_unroll {below : Node → List Module}
    (place : Place (graph.unroll below node) before (module :: after)) :
    (before = [] ∧ IsModuleOf node module ∧ (module.isScript = false → after = [])) ∨
    ∃ target earlier, graph.Follows node target ∧
      Place (below target) earlier (module :: after) ∧
      before.map Module.id = node.compiledId?.toList ++ earlier.map Module.id := by
  cases payload : node.payload with
  | input properties =>
      simp only [unroll, payload] at place
      obtain ⟨target, found, place⟩ := exists_target_of_place place
      have linear : node.kind ≠ .condition := by simp [Node.kind, payload, Payload.kind]
      refine .inr ⟨target, before, (follows_iff_of_linear linear).mpr found, place, ?_⟩
      simp [Node.compiledId?, Node.isInput, Node.kind, payload, Payload.kind]
  | action name bindings =>
      have linear : node.kind ≠ .condition := by simp [Node.kind, payload, Payload.kind]
      have compiled : node.compiledId? = some node.id := by
        simp [Node.compiledId?, Node.isInput, Node.kind, payload, Payload.kind]
      simp only [unroll, payload] at place
      cases place with
      | here =>
          refine .inl ⟨rfl, ⟨rfl, ?_⟩, ?_⟩
          · simp [Node.kind, payload, Payload.kind, Module.isScript]
          · simp [Module.isScript]
      | next place =>
          obtain ⟨target, found, place⟩ := exists_target_of_place place
          refine .inr ⟨target, _, (follows_iff_of_linear linear).mpr found, place, ?_⟩
          simp [compiled, Module.id]
  | condition rows =>
      have compiled : node.compiledId? = some node.id := by
        simp [Node.compiledId?, Node.isInput, Node.kind, payload, Payload.kind]
      simp only [unroll, payload] at place
      cases place with
      | here =>
          refine .inl ⟨rfl, ⟨rfl, ?_⟩, fun _ => rfl⟩
          simp [Node.kind, payload, Payload.kind, Module.isScript]
      | next place => cases place
      | default place =>
          obtain ⟨target, found, place⟩ := exists_target_of_place place
          have step := (follows_iff_of_condition payload).mpr (.inl found)
          refine .inr ⟨target, _, step, place, ?_⟩
          simp [compiled, Module.id]
      | branch declared place =>
          obtain ⟨row, isRow, made⟩ := List.mem_filterMap.mp declared
          obtain ⟨target, found, rfl⟩ := Option.map_eq_some_iff.mp made
          have step := (follows_iff_of_condition payload).mpr (.inr ⟨row, isRow, found⟩)
          refine .inr ⟨target, _, step, place, ?_⟩
          simp [compiled, Module.id]

/-- The modules on the way to a place, and the one that stands there, are those of a chain of
followed steps. -/
theorem Unfolds.exists_chain_of_place {modules : List Module}
    (unfolded : graph.Unfolds graph.unroll node modules)
    (place : Place modules before (module :: after)) :
    (module.isScript = false → after = []) ∧
    ∃ rest, (node :: rest).IsChain graph.Follows ∧
      (before ++ [module]).map Module.id = (node :: rest).filterMap Node.compiledId? ∧
      ∃ origin ∈ node :: rest, IsModuleOf origin module := by
  induction unfolded generalizing before with
  | @node node below each inductionHypothesis =>
      rcases place_unroll place with ⟨rfl, own, ends⟩ | ⟨target, earlier, step, further, ids⟩
      · refine ⟨ends, [], List.isChain_singleton node, ?_, node, List.mem_cons_self, own⟩
        simp [Node.compiledId?, own.isInput_eq_false, own.1]
      · obtain ⟨ends, rest, chain, later, origin, member, own⟩ :=
          inductionHypothesis target step further
        refine ⟨ends, target :: rest, List.isChain_cons_cons.mpr ⟨step, chain⟩, ?_, origin,
          List.mem_cons_of_mem node member, own⟩
        rw [List.map_append] at later ⊢
        rw [ids, List.append_assoc, later]
        cases compiled : node.compiledId? <;> simp [compiled]

/-- A module at a place is the first that some reached node unrolls to. -/
theorem Unfolds.exists_origin_of_place {modules : List Module}
    (unfolded : graph.Unfolds graph.unroll node modules)
    (place : Place modules before (module :: after)) :
    ∃ origin below, graph.Reaches node origin ∧ IsModuleOf origin module ∧
      (∀ target, graph.Follows origin target →
        graph.Unfolds graph.unroll target (below target)) ∧
      graph.unroll below origin = module :: after := by
  induction unfolded generalizing before with
  | @node node below each inductionHypothesis =>
      rcases place_unroll place with ⟨rfl, own, -⟩ | ⟨target, earlier, step, further, -⟩
      · -- Nothing comes before the module, so it is the first one that the node unrolls to.
        generalize unrolled : graph.unroll below node = modules at place
        cases place
        exact ⟨node, below, .refl, own, each, unrolled⟩
      · obtain ⟨origin, other, reached, origins⟩ := inductionHypothesis target step further
        exact ⟨origin, other, .head step reached, origins⟩

theorem compiledIds_sublist (nodes : List Node) :
    (nodes.filterMap Node.compiledId?).Sublist (nodes.map Node.id) := by
  induction nodes with
  | nil => exact List.Sublist.slnil
  | cons node rest inductionHypothesis =>
      cases input : node.isInput with
      | true =>
          simp only [List.filterMap_cons, Node.compiledId?, input, if_true, List.map_cons]
          exact inductionHypothesis.cons _
      | false =>
          simp only [List.filterMap_cons, Node.compiledId?, input, List.map_cons]
          exact inductionHypothesis.cons_cons _

section

variable {entry : Node} {modules : List Module} (input : entry.isInput = true)
  (unfolded : graph.Unfolds graph.unroll entry modules)
  (place : Place modules before (module :: after))
include input unfolded place

theorem nodup_ids_of_place (straight : ¬graph.Circles entry) :
    (entry.id :: (before ++ [module]).map Module.id).Nodup := by
  obtain ⟨-, rest, chain, ids, -⟩ := unfolded.exists_chain_of_place place
  have distinct : ((entry :: rest).map Node.id).Nodup := by
    by_contra twice
    exact straight ⟨rest, chain, twice⟩
  have passed : (entry :: rest).filterMap Node.compiledId? = rest.filterMap Node.compiledId? := by
    simp [Node.compiledId?, input]
  rw [ids, passed]
  exact distinct.sublist ((compiledIds_sublist rest).cons_cons entry.id)

/-- A module stands for the node that its id stands for, since that node is stepped to. -/
theorem node?_of_place :
    ∃ node, graph.node? module.id = some node ∧
      node.kind = if module.isScript then .action else .condition := by
  obtain ⟨-, rest, chain, -, origin, member, own⟩ := unfolded.exists_chain_of_place place
  have other : origin ≠ entry := by
    rintro rfl
    simp [own.isInput_eq_false] at input
  obtain ⟨source, step⟩ := exists_step_of_isChain chain (List.mem_of_ne_of_mem other member)
  exact ⟨origin, own.1 ▸ step.node?_id, own.2⟩

end

/-- A document that comes of a graph runs straight: on each way through its nested lists no module
comes twice and none stands for the input node; a branch module ends its list; scripts stand for
actions, and branch modules for conditions. -/
theorem compile_shape {options : Options} {summary description : Text}
    (succeeded : (graph.compile options summary description).succeeded = true) :
    ∃ entry document, graph.inputs = [entry] ∧
      (graph.compile options summary description).document? = some document ∧
      entry.id ∉ moduleIds document.modules ∧
      ∀ before module after, Place document.modules before (module :: after) →
        (module.isScript = false → after = []) ∧
        ((before ++ [module]).map Module.id).Nodup ∧
        ∃ node, graph.node? module.id = some node ∧
          node.kind = if module.isScript then .action else .condition := by
  obtain ⟨entry, single, completed⟩ := exists_entry_of_succeeded succeeded
  have member := mem_nodes_of_inputs single
  have input := isInput_of_inputs single
  have straight := (completes_walkFrom_iff member).mp completed
  have unfolded := unfolds_modules member completed
  refine ⟨entry, _, single, document?_of_input options summary description single completed, ?_, ?_⟩
  · intro compiled
    obtain ⟨before, module, after, place, named⟩ := holdsId_of_mem_moduleIds _ compiled
    have distinct := nodup_ids_of_place input unfolded place straight
    rw [List.nodup_cons] at distinct
    apply distinct.1
    exact List.mem_map.mpr ⟨module, by simp, named⟩
  · intro before module after place
    refine ⟨(unfolded.exists_chain_of_place place).1, ?_, node?_of_place input unfolded place⟩
    exact (List.nodup_cons.mp (nodup_ids_of_place input unfolded place straight)).2

/-- The forked graph after an action that has the id of the input node. -/
def shadowed : Graph :=
  { forked with nodes := ⟨"start", none, .empty, .action none []⟩ :: forked.nodes }

theorem shadowed_shape :
    (shadowed.compile .default "" "").succeeded = true ∧
      ∃ entry document, shadowed.inputs = [entry] ∧
        (shadowed.compile .default "" "").document? = some document ∧
        entry.id ∉ moduleIds document.modules ∧
        ∀ before module after, Place document.modules before (module :: after) →
          (module.isScript = false → after = []) ∧
          ((before ++ [module]).map Module.id).Nodup ∧
          ∃ node, shadowed.node? module.id = some node ∧
            node.kind = if module.isScript then .action else .condition := by
  have succeeded : (shadowed.compile .default "" "").succeeded = true := by decide +kernel
  exact ⟨succeeded, compile_shape succeeded⟩

end Graph

end Flowchart
