import Flowchart.Proofs.Outcome
import Flowchart.Proofs.Route

/-!
The cycle that ends a compilation. Of all routes from the input node, in the order of a depth-first
walk, the first that comes to an id for the second time closes it; what is reported is that id with
all ids met since it first came.
-/

namespace Flowchart.Graph

variable {graph : Graph} {path : List Text} {node : Node} {route : Route}

section

variable {enter : graph.Member → Trace (List Module)} {ids : List Text}

/-- An expansion fails at the first of the nodes that follow where what is entered fails. -/
theorem exists_target_of_error (failed : (graph.expand enter node).outcome = .error ids) :
    ∃ before target after, graph.targets node = before ++ target :: after ∧
      (∀ earlier ∈ before, (onNodes enter earlier).completes = true) ∧
      (onNodes enter target).outcome = .error ids := by
  rw [← Trace.outcome_void_eq_error_iff, void_expand, Trace.outcome_tell_then] at failed
  obtain ⟨before, way, after, split, completed, here⟩ := Trace.exists_of_forM_eq_error failed
  cases way with
  | lost warning => cases here
  | onward target =>
      refine ⟨before.filterMap Way.onward?, target, after.filterMap Way.onward?, ?_, ?_, ?_⟩
      · rw [targets, split, List.filterMap_append]
        rfl
      · intro earlier isBefore
        obtain ⟨way, taken, goesOn⟩ := List.mem_filterMap.mp isBefore
        cases way with
        | lost warning => exact absurd goesOn (Option.some_ne_none earlier).symm
        | onward other =>
            obtain rfl : other = earlier := Option.some.inj goesOn
            simpa [Way.take] using completed _ taken
      · exact Trace.outcome_void_eq_error_iff.mp here

theorem exists_choice_of_error (failed : (graph.expand enter node).outcome = .error ids) :
    ∃ choice target, graph.choose? node choice = some target ∧
      (onNodes enter target).outcome = .error ids ∧
      ∀ earlier other, earlier.rank < choice.rank → graph.choose? node earlier = some other →
        (onNodes enter other).completes = true := by
  obtain ⟨before, target, after, split, completed, here⟩ := exists_target_of_error failed
  rw [targets_eq_choices, List.filterMap_eq_append_iff] at split
  obtain ⟨first, second, choices, leadBefore, leadOn⟩ := split
  obtain ⟨lost, choice, later, rfl, nowhere, chosen, -⟩ := List.filterMap_eq_cons_iff.mp leadOn
  refine ⟨choice, target, chosen, here, ?_⟩
  intro earlier other less leads
  apply completed
  rw [← leadBefore, List.mem_filterMap]
  refine ⟨earlier, ?_, leads⟩
  -- The choices are sorted, so an earlier one stands before; those that lead nowhere are out.
  have sorted := node.choices_sorted
  have isChoice := mem_choices_of_choose? leads
  rw [choices] at sorted isChoice
  rw [List.pairwise_append, List.pairwise_append, List.pairwise_cons] at sorted
  obtain ⟨-, ⟨-, ⟨above, -⟩, -⟩, -⟩ := sorted
  simp only [List.mem_append, List.mem_cons] at isChoice
  rcases isChoice with isFirst | isLost | rfl | isLater
  · exact isFirst
  · simp [nowhere earlier isLost] at leads
  · exact absurd less (Nat.lt_irrefl _)
  · exact absurd less (Nat.lt_asymm (above earlier isLater))

end

/-- A route that comes with its last step, and not before, to an id that it has met or that is in a
path. Before that step it comes by the straight nodes, and it ends at the last one. -/
structure Closes (graph : Graph) (path : List Text) (node : Node) (route : Route)
    (straight : List Node) (last : Node) : Prop where
  along : graph.along? node route = some (straight ++ [last])
  clear : IsClear path straight
  again : last.id ∈ path ++ straight.map Node.id

theorem along?_cons_iff {choice : Choice} {nodes : List Node} :
    graph.along? node (choice :: route) = some nodes ↔
      ∃ target rest, graph.choose? node choice = some target ∧
        graph.along? target route = some rest ∧ node :: rest = nodes := by
  simp only [along?, Option.bind_eq_some_iff, Option.map_eq_some_iff, exists_and_left]

/-- What a route comes by is a chain of followed steps. -/
theorem exists_chain_of_along? {nodes : List Node}
    (along : graph.along? node route = some nodes) :
    ∃ rest, nodes = node :: rest ∧ (node :: rest).IsChain graph.Follows := by
  induction route generalizing node nodes with
  | nil =>
      obtain rfl : [node] = nodes := Option.some.inj along
      exact ⟨[], rfl, List.isChain_singleton node⟩
  | cons choice route inductionHypothesis =>
      obtain ⟨target, rest, chosen, further, rfl⟩ := along?_cons_iff.mp along
      obtain ⟨later, rfl, chain⟩ := inductionHypothesis further
      have step := follows_of_choose? chosen
      exact ⟨target :: later, rfl, List.isChain_cons_cons.mpr ⟨step, chain⟩⟩

theorem isClear_of_completes {node : graph.Member} {nodes : List Node}
    (completed : (graph.walk path node).completes = true)
    (along : graph.along? node route = some nodes) : IsClear path nodes := by
  obtain ⟨rest, rfl, chain⟩ := exists_chain_of_along? along
  exact (completes_walk_iff node).mp completed rest chain

theorem isClear_singleton : IsClear path [node] ↔ node.id ∉ path := by
  simp [IsClear]

theorem Closes.cons {choice : Choice} {target last : Node} {straight : List Node}
    (unmet : node.id ∉ path) (chosen : graph.choose? node choice = some target)
    (closes : graph.Closes (path ++ [node.id]) target route straight last) :
    graph.Closes path node (choice :: route) (node :: straight) last where
  along := along?_cons_iff.mpr ⟨target, _, chosen, closes.along, rfl⟩
  clear := isClear_cons.mpr ⟨unmet, closes.clear⟩
  again := by simpa using closes.again

/-- A walk that fails has followed a route until it closed, and all routes before it are clear. -/
theorem exists_closes_of_error {node : graph.Member} {ids : List Text}
    (failed : (graph.walk path node).outcome = .error ids) :
    ∃ route straight last, graph.Closes path node route straight last ∧
      ids = (path ++ straight.map Node.id).dropWhile (· ≠ last.id) ++ [last.id] ∧
      ∀ other nodes, Route.Earlier other route → graph.along? node other = some nodes →
        IsClear path nodes := by
  induction path, node using Graph.walk.induct generalizing ids with
  | case1 path node unmet inductionHypothesis =>
      rw [walk_of_unmet unmet] at failed
      obtain ⟨choice, target, chosen, here, completed⟩ := exists_choice_of_error failed
      have step := follows_of_choose? chosen
      rw [onNodes_of_follows _ step] at here
      obtain ⟨route, straight, last, closes, cut, clear⟩ :=
        inductionHypothesis ⟨target, step.mem_nodes⟩ here
      refine ⟨choice :: route, node :: straight, last, closes.cons unmet chosen, ?_, ?_⟩
      · simpa using cut
      · intro other nodes earlier along
        cases earlier with
        | nil =>
            obtain rfl : [node.val] = nodes := Option.some.inj along
            exact isClear_singleton.mpr unmet
        | cons earlier =>
            obtain ⟨same, rest, chosenToo, further, rfl⟩ := along?_cons_iff.mp along
            obtain rfl : target = same := Option.some.inj (chosen.symm.trans chosenToo)
            exact isClear_cons.mpr ⟨unmet, clear _ rest earlier further⟩
        | rel less =>
            obtain ⟨other, rest, chosenToo, further, rfl⟩ := along?_cons_iff.mp along
            have stepToo := follows_of_choose? chosenToo
            have below := completed _ other less chosenToo
            rw [onNodes_of_follows _ stepToo] at below
            exact isClear_cons.mpr ⟨unmet, isClear_of_completes below further⟩
  | case2 path node met =>
      rw [walk_of_met (not_not.mp met)] at failed
      refine ⟨[], [], node, ⟨rfl, ?_, ?_⟩, ?_, ?_⟩
      · exact ⟨List.nodup_nil, List.disjoint_nil_left path⟩
      · simpa using met
      · simpa [Trace.cycle] using (Except.error.inj failed).symm
      · intro other nodes earlier
        cases earlier

theorem exists_dropWhile_ne {α : Type} [DecidableEq α] {item : α} {list : List α}
    (member : item ∈ list) : ∃ rest, list.dropWhile (· ≠ item) = item :: rest := by
  induction list with
  | nil => exact absurd member List.not_mem_nil
  | cons first others inductionHypothesis =>
      by_cases same : first = item
      · exact ⟨others, by simp [same]⟩
      · obtain ⟨rest, cut⟩ := inductionHypothesis (List.mem_of_ne_of_mem (Ne.symm same) member)
        exact ⟨rest, by rw [List.dropWhile_cons_of_pos (by simpa using same), cut]⟩

/-- A closed route is an approach and then a circle that comes back to the id it starts with. -/
theorem Closes.exists_circle {last : Node} {straight : List Node}
    (closes : graph.Closes [] node route straight last) :
    ∃ approach circle, straight = approach ++ circle ∧
      circle.head?.map Node.id = some last.id ∧
      (straight.map Node.id).dropWhile (· ≠ last.id) = circle.map Node.id := by
  let strange (other : Node) : Bool := other.id ≠ last.id
  obtain ⟨rest, cut⟩ := exists_dropWhile_ne closes.again
  have circle : (straight.map Node.id).dropWhile (· ≠ last.id) =
      (straight.dropWhile strange).map Node.id := List.dropWhile_map
  refine ⟨straight.takeWhile strange, straight.dropWhile strange,
    List.takeWhile_append_dropWhile.symm, ?_, circle⟩
  rw [← List.head?_map, ← circle]
  exact congrArg List.head? cut

theorem reaches_of_along? {nodes : List Node} (along : graph.along? node route = some nodes)
    {other : Node} (member : other ∈ nodes) : graph.Reaches node other := by
  induction route generalizing node nodes with
  | nil =>
      obtain rfl : [node] = nodes := Option.some.inj along
      obtain rfl := List.mem_singleton.mp member
      exact .refl
  | cons choice route inductionHypothesis =>
      obtain ⟨target, rest, chosen, further, rfl⟩ := along?_cons_iff.mp along
      rcases List.mem_cons.mp member with rfl | isLater
      · exact .refl
      · exact .head (follows_of_choose? chosen) (inductionHypothesis further isLater)

theorem walkFrom_of_error {options : Options} {summary description : Text}
    {error : CompileError}
    (failed : (graph.compile options summary description).error? = some error)
    (kind : error.kind = "cycle_detected") :
    ∃ entry ids, graph.inputs = [entry] ∧ error = .cycle ids ∧
      (graph.walkFrom entry).outcome = .error ids := by
  rcases graph.inputs_cases with noInput | ⟨entry, single⟩ | several
  · rw [compile_of_no_input options summary description noInput] at failed
    obtain rfl : CompileError.noEntry = error := Option.some.inj failed
    simp [CompileError.kind] at kind
  · rw [compile_of_input options summary description single] at failed
    cases outcome : (graph.walkFrom entry).outcome with
    | ok modules => simp [Compilation.error?, outcome, Except.mapError, Except.map] at failed
    | error ids =>
        refine ⟨entry, ids, single, ?_, outcome⟩
        simpa [Compilation.error?, outcome, Except.mapError, Except.map] using failed.symm
  · rw [compile_of_inputs options summary description several] at failed
    obtain rfl : CompileError.multipleEntries _ = error := Option.some.inj failed
    simp [CompileError.kind] at kind

/-- Each id of a reported cycle is that of a node that is stepped to. -/
theorem exists_step_of_mem_cycle {options : Options} {summary description : Text}
    {error : CompileError}
    (failed : (graph.compile options summary description).error? = some error)
    (kind : error.kind = "cycle_detected") {id : Text} (member : id ∈ error.nodes) :
    ∃ source target, graph.Follows source target ∧ target.id = id := by
  obtain ⟨entry, ids, single, rfl, ended⟩ := walkFrom_of_error failed kind
  rw [walkFrom_of_mem (mem_nodes_of_inputs single)] at ended
  obtain ⟨route, straight, last, closes, cut, -⟩ := exists_closes_of_error ended
  obtain ⟨approach, circle, rfl, returns, dropped⟩ := closes.exists_circle
  obtain ⟨first, others, rfl⟩ : ∃ first others, circle = first :: others := by
    cases circle with
    | nil => simp at returns
    | cons first others => exact ⟨first, others, rfl⟩
  have same : first.id = last.id := by simpa using returns
  obtain ⟨target, inside, named⟩ : ∃ target ∈ others ++ [last], target.id = id := by
    rw [CompileError.nodes, cut, List.nil_append, dropped, List.map_cons, same] at member
    have isLater : id = last.id ∨ id ∈ others.map Node.id := by
      simpa [or_comm, or_assoc] using member
    rcases isLater with isLast | isOther
    · exact ⟨last, by simp, isLast.symm⟩
    · obtain ⟨other, later, named⟩ := List.mem_map.mp isOther
      exact ⟨other, List.mem_append_left _ later, named⟩
  obtain ⟨rest, split, chain⟩ := exists_chain_of_along? closes.along
  rw [← split, List.append_assoc] at chain
  obtain ⟨source, step⟩ := exists_step_of_isChain chain.right_of_append inside
  exact ⟨source, target, step, named⟩

/-- The cycle that is reported is one of the graph, and the first one that a depth-first walk
closes: it comes back to the id that it starts with and to no other, its nodes are reached and
follow one on the other, and no route before the one that closes it comes to an id twice. -/
theorem compile_first_cycle {options : Options} {summary description : Text}
    {error : CompileError}
    (failed : (graph.compile options summary description).error? = some error)
    (kind : error.kind = "cycle_detected") :
    ∃ entry route approach circle last,
      graph.inputs = [entry] ∧
      error.nodes = (circle ++ [last]).map Node.id ∧
      circle.head?.map Node.id = some last.id ∧
      (circle.map Node.id).Nodup ∧
      (∀ node ∈ circle, graph.Reaches entry node) ∧
      (circle ++ [last]).IsChain graph.Follows ∧
      graph.along? entry route = some (approach ++ circle ++ [last]) ∧
      ((approach ++ circle).map Node.id).Nodup ∧
      (∀ other nodes, Route.Earlier other route → graph.along? entry other = some nodes →
        (nodes.map Node.id).Nodup) ∧
      error.message = "Cycle detected: " ++ Text.intercalate " -> " error.nodes := by
  obtain ⟨entry, ids, single, rfl, ended⟩ := walkFrom_of_error failed kind
  rw [walkFrom_of_mem (mem_nodes_of_inputs single)] at ended
  obtain ⟨route, straight, last, closes, cut, earlier⟩ := exists_closes_of_error ended
  obtain ⟨approach, circle, rfl, returns, dropped⟩ := closes.exists_circle
  obtain ⟨rest, nodes, chain⟩ := exists_chain_of_along? closes.along
  refine ⟨entry, route, approach, circle, last, single, ?_, returns, ?_, ?_, ?_, closes.along,
    closes.clear.1, ?_, rfl⟩
  · rw [List.nil_append, dropped] at cut
    rw [CompileError.nodes, cut, List.map_append, List.map_singleton]
  · have distinct := closes.clear.1
    rw [List.map_append] at distinct
    exact distinct.of_append_right
  · intro node member
    exact reaches_of_along? closes.along (by simp [member])
  · rw [← nodes, List.append_assoc] at chain
    exact chain.right_of_append
  · intro other nodes before along
    exact (earlier other nodes before along).1

/-- A condition whose default and first row share what follows, and whose last two rows lead back:
one to a node with the id of the input node, one to the condition itself. -/
def tangled : Graph where
  nodes :=
    [⟨"start", none, .empty, .action none []⟩, ⟨"start", none, .empty, .input []⟩,
     ⟨"check", none, .empty, .condition
       [⟨"open", "Open", ""⟩, ⟨"lost", "Lost", ""⟩, ⟨"back", "Back", ""⟩, ⟨"self", "Self", ""⟩]⟩,
     ⟨"send", none, .empty, .action none []⟩, ⟨"done", none, .empty, .action none []⟩]
  edges :=
    [⟨none, "start", "check", none, none⟩, ⟨none, "check", "send", some "default", none⟩,
     ⟨none, "check", "send", some "open", none⟩, ⟨none, "check", "nowhere", some "lost", none⟩,
     ⟨none, "check", "start", some "back", none⟩, ⟨none, "check", "check", some "self", none⟩,
     ⟨none, "send", "done", none, none⟩]

theorem tangled_first_cycle :
    ∃ error, (tangled.compile .default "" "").error? = some error ∧
      error.kind = "cycle_detected" ∧
      ∃ entry route approach circle last,
        tangled.inputs = [entry] ∧
        error.nodes = (circle ++ [last]).map Node.id ∧
        circle.head?.map Node.id = some last.id ∧
        (circle.map Node.id).Nodup ∧
        (∀ node ∈ circle, tangled.Reaches entry node) ∧
        (circle ++ [last]).IsChain tangled.Follows ∧
        tangled.along? entry route = some (approach ++ circle ++ [last]) ∧
        ((approach ++ circle).map Node.id).Nodup ∧
        (∀ other nodes, Route.Earlier other route → tangled.along? entry other = some nodes →
          (nodes.map Node.id).Nodup) ∧
        error.message = "Cycle detected: " ++ Text.intercalate " -> " error.nodes := by
  have failed : (tangled.compile .default "" "").error? =
      some (.cycle ["start", "check", "start"]) := by decide +kernel
  exact ⟨_, failed, rfl, compile_first_cycle failed rfl⟩

end Flowchart.Graph
