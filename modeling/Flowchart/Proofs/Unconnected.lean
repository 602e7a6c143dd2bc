import Flowchart.Proofs.Anomaly

/-!
The branches of a condition that have no edge, and the warnings about them. A condition that several
ways lead to is warned about each time, and only the first time counts, which brings its branches one
after the other. Two branches of one id are one to the key of a warning, so the second goes unreported:
each branch is told exactly where the ids of those without an edge differ.
-/

namespace Flowchart

namespace Warning

theorem distinct_of_known {seen : List Key} {warnings : List Warning}
    (known : ∀ warning ∈ warnings, warning.key ∈ seen) : distinct seen warnings = [] := by
  induction warnings with
  | nil => rfl
  | cons warning rest inductionHypothesis =>
      rw [distinct, if_pos (known warning List.mem_cons_self)]
      exact inductionHypothesis fun later member => known later (List.mem_cons_of_mem warning member)

/-- Repetitions of earlier warnings add nothing. -/
theorem distinct_append_of_subset {seen : List Key} {warnings more : List Warning}
    (known : ∀ warning ∈ more, warning.key ∈ seen ∨ warning ∈ warnings) :
    distinct seen (warnings ++ more) = distinct seen warnings := by
  induction warnings generalizing seen with
  | nil =>
      apply distinct_of_known
      intro warning member
      exact (known warning member).resolve_right List.not_mem_nil
  | cons first rest inductionHypothesis =>
      rw [List.cons_append, distinct, distinct]
      split
      · next old =>
        apply inductionHypothesis
        intro warning member
        rcases known warning member with isSeen | isHere
        · exact .inl isSeen
        · rcases List.mem_cons.mp isHere with rfl | isLater
          · exact .inl old
          · exact .inr isLater
      · congr 1
        apply inductionHypothesis
        intro warning member
        rcases known warning member with isSeen | isHere
        · exact .inl (List.mem_cons_of_mem _ isSeen)
        · rcases List.mem_cons.mp isHere with rfl | isLater
          · exact .inl List.mem_cons_self
          · exact .inr isLater

/-- Of the keys that are seen, only those of the warnings matter. -/
theorem distinct_congr {seen other : List Key} {warnings : List Warning}
    (same : ∀ warning ∈ warnings, warning.key ∈ seen ↔ warning.key ∈ other) :
    distinct seen warnings = distinct other warnings := by
  induction warnings generalizing seen other with
  | nil => rfl
  | cons first rest inductionHypothesis =>
      have later := fun warning member => same warning (List.mem_cons_of_mem first member)
      simp only [distinct, same first List.mem_cons_self]
      split
      · exact inductionHypothesis later
      · congr 1
        apply inductionHypothesis
        intro warning member
        rw [List.mem_cons, List.mem_cons, later warning member]

/-- Warnings that are picked by their keys may be picked before or after the repetitions go. -/
theorem filter_distinct (keep : Key → Bool) (seen : List Key) (warnings : List Warning) :
    (distinct seen warnings).filter (fun warning => keep warning.key) =
      distinct seen (warnings.filter fun warning => keep warning.key) := by
  induction warnings generalizing seen with
  | nil => rfl
  | cons first rest inductionHypothesis =>
      by_cases kept : keep first.key = true <;> by_cases known : first.key ∈ seen
      · simp [distinct, kept, known, inductionHypothesis]
      · simp [distinct, kept, known, inductionHypothesis]
      · simp [distinct, kept, known, inductionHypothesis]
      · -- A warning that is not picked hides none that is, since its key is another.
        simp only [distinct, known, if_false, List.filter_cons, kept, inductionHypothesis]
        apply distinct_congr
        intro warning member
        have other : warning.key ≠ first.key := by
          intro same
          exact kept (same ▸ (List.mem_filter.mp member).2)
        simp [other]

/-- Whether a warning is about a branch of some node that has no edge. -/
def isMissingBranchOf (id : Text) (warning : Warning) : Bool :=
  warning.kind = .missingBranchEdge ∧ warning.node = id

theorem filter_isMissingBranchOf (id : Text) (seen : List Key) (warnings : List Warning) :
    (distinct seen warnings).filter (isMissingBranchOf id) =
      distinct seen (warnings.filter (isMissingBranchOf id)) :=
  filter_distinct (fun key => key.kind = .missingBranchEdge ∧ key.node = id) seen warnings

end Warning

/-- The rows whose id no row before them has. -/
def firstRows : List BranchRow → List BranchRow
  | [] => []
  | row :: rest => row :: (firstRows rest).filter (·.id ≠ row.id)

theorem map_id_firstRows (rows : List BranchRow) :
    (firstRows rows).map BranchRow.id = (rows.map BranchRow.id).eraseDups := by
  induction rows with
  | nil => rfl
  | cons row rest inductionHypothesis =>
      rw [firstRows, List.map_cons, List.map_cons, List.eraseDups_cons, eraseDups_filter,
        ← inductionHypothesis, List.filter_map]
      congr 3
      funext other
      by_cases same : other.id = row.id <;> simp [same]

theorem firstRows_sublist (rows : List BranchRow) : (firstRows rows).Sublist rows := by
  induction rows with
  | nil => exact List.Sublist.slnil
  | cons row rest inductionHypothesis =>
      exact (List.filter_sublist.trans inductionHypothesis).cons_cons row

/-- No row has to go exactly if their ids differ. -/
theorem firstRows_eq_self_iff {rows : List BranchRow} :
    firstRows rows = rows ↔ (rows.map BranchRow.id).Nodup := by
  constructor
  · intro whole
    rw [← whole, map_id_firstRows]
    exact nodup_eraseDups _
  · intro distinct
    apply (firstRows_sublist rows).eq_of_length
    rw [← List.length_map BranchRow.id, map_id_firstRows, eraseDups_of_nodup distinct,
      List.length_map]

/-- Of the warnings about the rows of a condition, those about the first rows are kept. -/
theorem distinct_missingBranchEdge (id : Text) (seen : List Warning.Key) (rows : List BranchRow) :
    Warning.distinct seen (rows.map (.missingBranchEdge id)) =
      ((firstRows rows).filter fun row => (Warning.missingBranchEdge id row).key ∉ seen).map
        (.missingBranchEdge id) := by
  induction rows generalizing seen with
  | nil => rfl
  | cons row rest inductionHypothesis =>
      have key_iff (other : BranchRow) :
          (Warning.missingBranchEdge id other).key = (Warning.missingBranchEdge id row).key ↔
            other.id = row.id := by
        simp [Warning.key, Warning.kind, Warning.node, Warning.branch?, Warning.edgeId?,
          Warning.edge?]
      rw [List.map_cons, Warning.distinct, firstRows]
      split
      · next known =>
        rw [List.filter_cons_of_neg (by simpa using known), inductionHypothesis, List.filter_filter]
        congr 2
        funext other
        by_cases same : other.id = row.id
        · simp [same, (key_iff other).mpr same, known]
        · simp [same]
      · next fresh =>
        rw [List.filter_cons_of_pos (by simpa using fresh), inductionHypothesis, List.filter_filter,
          List.map_cons]
        congr 3
        funext other
        by_cases same : other.id = row.id <;> simp [same, key_iff]

namespace Graph

/-- The rows of a condition that have no edge. -/
def unconnected (graph : Graph) (node : Node) (rows : List BranchRow) : List BranchRow :=
  rows.filter fun row => graph.edge? node.id (some row.id) = none

variable {graph : Graph}

/-- Where a rule has a value, no step leads back. -/
theorem Unfolds.not_returns {α : Type} {rule : (Node → α) → Node → α} {node reached : Node}
    {value : α} (unfolded : graph.Unfolds rule node value) (path : graph.Reaches node reached) :
    ¬Relation.TransGen graph.Follows reached reached := by
  induction unfolded with
  | @node node below each inductionHypothesis =>
      rcases path.cases_head with rfl | ⟨target, step, path⟩
      · intro loop
        obtain ⟨target, step, back⟩ := Relation.TransGen.head'_iff.mp loop
        exact inductionHypothesis target step back loop
      · exact inductionHypothesis target step path

/-- Nothing, or a list and then repetitions out of it. -/
def StartsOver {α : Type} (own list : List α) : Prop :=
  list = [] ∨ ∃ more, list = own ++ more ∧ more ⊆ own

section

variable {α : Type} {own : List α}

theorem StartsOver.append {first second : List α} (isFirst : StartsOver own first)
    (isSecond : StartsOver own second) : StartsOver own (first ++ second) := by
  rcases isFirst with rfl | ⟨more, rfl, repeated⟩
  · exact isSecond
  · refine .inr ⟨more ++ second, List.append_assoc own more second, ?_⟩
    apply List.append_subset.mpr
    refine ⟨repeated, ?_⟩
    rcases isSecond with rfl | ⟨later, rfl, laterRepeated⟩
    · exact List.nil_subset own
    · exact List.append_subset.mpr ⟨List.Subset.refl own, laterRepeated⟩

theorem StartsOver.flatMap {β : Type} {items : List β} {part : β → List α}
    (each : ∀ item ∈ items, StartsOver own (part item)) : StartsOver own (items.flatMap part) := by
  induction items with
  | nil => exact .inl rfl
  | cons item rest inductionHypothesis =>
      rw [List.flatMap_cons]
      apply (each item List.mem_cons_self).append
      exact inductionHypothesis fun later member => each later (List.mem_cons_of_mem item member)

end

/-- The warnings about the branches of a condition along a walk, by those of the nodes that follow a
node. -/
def missingBranches (graph : Graph) (id : Text) :
    (Node → List Warning) → Node → List Warning :=
  graph.listing (fun _ => []) fun _ warning => [warning].filter (Warning.isMissingBranchOf id)

variable {condition node : Node} {rows : List BranchRow}

theorem filter_ownWarnings (id : Text) (node : Node) :
    (graph.ownWarnings node).filter (Warning.isMissingBranchOf id) = [] := by
  rw [List.filter_eq_nil_iff]
  intro warning isOwn
  rcases mem_ownWarnings_iff.mp isOwn with ⟨_, _, _, _, rfl⟩ | ⟨-, ambiguous⟩
  · simp [Warning.isMissingBranchOf, Warning.kind]
  · obtain ⟨_, _, _, _, rfl⟩ := mem_ambiguities_iff.mp ambiguous
    simp [Warning.isMissingBranchOf, Warning.kind]

theorem Unfolds.missingBranches {warnings : List Warning}
    (unfolded : graph.Unfolds (graph.listing graph.ownWarnings fun _ warning => [warning]) node
      warnings) (id : Text) :
    graph.Unfolds (graph.missingBranches id) node
      (warnings.filter (Warning.isMissingBranchOf id)) := by
  have picked := unfolded.filter (Warning.isMissingBranchOf id)
  simp only [filter_ownWarnings] at picked
  exact picked

theorem id_eq_of_isMissingBranchOf {warning : Warning} (isLost : .lost warning ∈ graph.ways node)
    {id : Text} (about : warning.isMissingBranchOf id = true) : node.id = id := by
  have named : warning.node = node.id := Warns.node_eq (.inr isLost)
  simp only [Warning.isMissingBranchOf, named, decide_eq_true_eq] at about
  exact about.2

theorem flatMap_unconnected (rows : List BranchRow) (tell : BranchRow → Warning) :
    (rows.flatMap fun row =>
        if graph.edge? condition.id (some row.id) = none then [tell row] else []) =
      (graph.unconnected condition rows).map tell := by
  induction rows with
  | nil => rfl
  | cons row rest inductionHypothesis =>
      rw [List.flatMap_cons, inductionHypothesis, unconnected, unconnected]
      by_cases missing : graph.edge? condition.id (some row.id) = none <;> simp [missing]

/-- What is told of the branches of a condition on one way out of a node. -/
def missingBranchesOn (id : Text) (below : Node → List Warning) : Way → List Warning
  | .onward target => below target
  | .lost warning => [warning].filter (Warning.isMissingBranchOf id)

section

variable {below : Node → List Warning} (payload : condition.payload = .condition rows)
  (quiet : ∀ target, graph.Follows condition target → below target = [])
include quiet

theorem missingBranchesOn_way {edge : Edge} (isFollowed : edge ∈ graph.followed condition) :
    missingBranchesOn condition.id below (graph.way condition edge) = [] := by
  cases found : graph.node? edge.target with
  | none => simp [missingBranchesOn, way, found, Warning.isMissingBranchOf, Warning.kind]
  | some target =>
      simp only [missingBranchesOn, way, found]
      exact quiet target ⟨edge, isFollowed, found⟩

include payload

theorem missingBranchesOn_rowWay {row : BranchRow} (declared : row ∈ rows) :
    missingBranchesOn condition.id below (graph.rowWay condition row) =
      if graph.edge? condition.id (some row.id) = none then
        [.missingBranchEdge condition.id row]
      else [] := by
  cases found : graph.edge? condition.id (some row.id) with
  | none =>
      simp [missingBranchesOn, rowWay, found, Warning.isMissingBranchOf, Warning.kind,
        Warning.node]
  | some edge =>
      have silent := missingBranchesOn_way quiet (row_mem_followed payload declared found)
      simpa [rowWay, found] using silent

/-- The ways out of a condition warn of its rows without an edge, in order. -/
theorem missingBranches_self :
    graph.missingBranches condition.id below condition =
      (graph.unconnected condition rows).map (.missingBranchEdge condition.id) := by
  have onDefault :
      ((graph.edge? condition.id (some defaultHandle)).toList.map (graph.way condition)).flatMap
        (missingBranchesOn condition.id below) = [] := by
    cases found : graph.edge? condition.id (some defaultHandle) with
    | none => rfl
    | some edge => simpa using missingBranchesOn_way quiet (default_mem_followed payload found)
  change [] ++ (graph.ways condition).flatMap (missingBranchesOn condition.id below) = _
  rw [List.nil_append, ways, payload, List.flatMap_append, onDefault, List.nil_append,
    List.flatMap_map, ← flatMap_unconnected]
  apply List.flatMap_congr
  intro row declared
  exact missingBranchesOn_rowWay payload quiet declared

end

theorem Unfolds.startsOver {warnings : List Warning}
    (unfolded : graph.Unfolds (graph.missingBranches condition.id) node warnings)
    (payload : condition.payload = .condition rows)
    (straight : ¬Relation.TransGen graph.Follows condition condition)
    (alone : ∀ reached, graph.Reaches node reached → reached.id = condition.id →
      reached = condition) :
    StartsOver ((graph.unconnected condition rows).map (.missingBranchEdge condition.id))
      warnings := by
  induction unfolded with
  | @node node below each inductionHypothesis =>
      have further (target : Node) (step : graph.Follows node target) (reached : Node)
          (path : graph.Reaches target reached) := alone reached (.head step path)
      by_cases here : node = condition
      · -- Nothing that follows the condition leads back to it.
        subst here
        have quiet (target : Node) (step : graph.Follows node target) : below target = [] := by
          rw [List.eq_nil_iff_forall_not_mem]
          intro warning told
          obtain ⟨reached, path, isOwn | ⟨other, isLost, isTold⟩⟩ :=
            ((each target step).mem_iff warning).mp told
          · exact absurd isOwn List.not_mem_nil
          · have about := (List.mem_filter.mp isTold).2
            obtain rfl := List.mem_singleton.mp (List.mem_filter.mp isTold).1
            have back := further target step reached path (id_eq_of_isMissingBranchOf isLost about)
            exact straight (Relation.TransGen.head' step (back ▸ path))
        rw [missingBranches_self payload quiet]
        exact .inr ⟨[], (List.append_nil _).symm, List.nil_subset _⟩
      · apply StartsOver.append (.inl rfl)
        apply StartsOver.flatMap
        intro way taken
        cases way with
        | onward target =>
            have step := onward_mem_ways_iff.mp taken
            exact inductionHypothesis target step (further target step)
        | lost warning =>
            refine .inl (List.filter_eq_nil_iff.mpr ?_)
            intro other isOther about
            obtain rfl := List.mem_singleton.mp isOther
            exact here (alone node .refl (id_eq_of_isMissingBranchOf taken about))

theorem mem_of_mem_unconnected {entry : Node} {warnings : List Warning}
    (unfolded : graph.Unfolds (graph.missingBranches condition.id) entry warnings)
    (reached : graph.Reaches entry condition) (payload : condition.payload = .condition rows)
    {row : BranchRow} (alone : row ∈ graph.unconnected condition rows) :
    .missingBranchEdge condition.id row ∈ warnings := by
  obtain ⟨declared, missing⟩ := List.mem_filter.mp alone
  apply (unfolded.mem_iff _).mpr
  refine ⟨condition, reached, .inr ⟨.missingBranchEdge condition.id row, ?_, ?_⟩⟩
  · apply lost_mem_ways_iff.mpr
    exact .inr ⟨rows, payload, row, declared, of_decide_eq_true missing, rfl⟩
  · simp [Warning.isMissingBranchOf, Warning.kind, Warning.node]

/-- Of the branches of a condition without an edge, the first one of each id is told. -/
theorem filter_warnings_walkFrom {entry : Node} (member : entry ∈ graph.nodes)
    (completed : (graph.walkFrom entry).completes = true)
    (reached : graph.Reaches entry condition) (payload : condition.payload = .condition rows) :
    (graph.walkFrom entry).warnings.filter (Warning.isMissingBranchOf condition.id) =
      (firstRows (graph.unconnected condition rows)).map (.missingBranchEdge condition.id) := by
  have unfolded := (unfolds_warnings member completed).missingBranches condition.id
  have once : (graph.walkFrom entry).warnings.filter (Warning.isMissingBranchOf condition.id) =
      Warning.distinct []
        ((graph.unconnected condition rows).map (.missingBranchEdge condition.id)) := by
    rw [Trace.warnings_eq, Warning.filter_isMissingBranchOf]
    have starts := unfolded.startsOver payload (unfolded.not_returns reached) fun other path same =>
      eq_of_reaches ((completes_walkFrom_iff member).mp completed) path reached same
    rcases starts with nothing | ⟨more, visits, repeated⟩
    · -- The condition is reached, so a row without an edge would have been told.
      have noRow : graph.unconnected condition rows = [] := by
        rw [List.eq_nil_iff_forall_not_mem]
        intro row alone
        have told := mem_of_mem_unconnected unfolded reached payload alone
        rw [nothing] at told
        exact List.not_mem_nil told
      rw [nothing, noRow]
      rfl
    · rw [visits]
      exact Warning.distinct_append_of_subset fun warning isMore => .inr (repeated isMore)
  rw [once, distinct_missingBranchEdge]
  simp

/-- Whether each branch of a condition without an edge is told, in its own words. -/
def TellsEachBranch (graph : Graph) (warnings : List Warning) (condition : Node)
    (rows : List BranchRow) : Prop :=
  let told := warnings.filter (Warning.isMissingBranchOf condition.id)
  told.length = (graph.unconnected condition rows).length ∧
    ∀ row ∈ graph.unconnected condition rows, ∃ warning ∈ told, warning.message =
      "Branch '" ++ row.label ++ "' of condition '" ++ condition.id ++ "' is not connected"

theorem tellsEachBranch_iff {warnings : List Warning}
    (told : warnings.filter (Warning.isMissingBranchOf condition.id) =
      (firstRows (graph.unconnected condition rows)).map (.missingBranchEdge condition.id)) :
    graph.TellsEachBranch warnings condition rows ↔
      ((graph.unconnected condition rows).map BranchRow.id).Nodup := by
  rw [← firstRows_eq_self_iff, TellsEachBranch, told]
  constructor
  · rintro ⟨all, -⟩
    apply (firstRows_sublist _).eq_of_length
    rw [← all, List.length_map]
  · intro whole
    rw [whole]
    refine ⟨List.length_map _, ?_⟩
    intro row alone
    exact ⟨_, List.mem_map_of_mem alone, rfl⟩

/-- Among the warnings of a compiled graph, those about the branches of a condition that is reached
are told of its rows without an edge, for each id of the first one. So each of these rows is told
exactly if no two of them have the same id. -/
theorem compile_unconnected {options : Options} {summary description : Text}
    (succeeded : (graph.compile options summary description).succeeded = true) :
    let warnings := (graph.compile options summary description).warnings
    ∃ entry, graph.inputs = [entry] ∧
      ∀ condition rows, graph.Reaches entry condition → condition.payload = .condition rows →
        let unconnected := graph.unconnected condition rows
        let told := warnings.filter (Warning.isMissingBranchOf condition.id)
        told = (firstRows unconnected).map (.missingBranchEdge condition.id) ∧
        told.length = (unconnected.map BranchRow.id).eraseDups.length ∧
        (graph.TellsEachBranch warnings condition rows ↔
          (unconnected.map BranchRow.id).Nodup) := by
  intro warnings
  obtain ⟨entry, single, completed⟩ := exists_entry_of_succeeded succeeded
  have walked : warnings = (graph.walkFrom entry).warnings := by
    simp only [warnings, compile_of_input options summary description single]
  refine ⟨entry, single, ?_⟩
  intro condition rows reached payload unconnected told
  have exactly : told = (firstRows unconnected).map (.missingBranchEdge condition.id) := by
    simp only [told, walked]
    exact filter_warnings_walkFrom (mem_nodes_of_inputs single) completed reached payload
  refine ⟨exactly, ?_, tellsEachBranch_iff exactly⟩
  rw [exactly, List.length_map, ← map_id_firstRows, List.length_map]

/-- A condition that two ways lead to, with two branches of one id that have no edge. -/
def gapped : Graph where
  nodes :=
    [⟨"start", none, .empty, .input []⟩,
     ⟨"check", none, .empty, .condition [⟨"large", "Large", "amount > 9"⟩]⟩,
     ⟨"sort", none, .empty, .condition
       [⟨"new", "New", "age = 0"⟩, ⟨"old", "Old", "age > 9"⟩, ⟨"new", "Young", "age = 1"⟩,
        ⟨"done", "Done", "true"⟩]⟩,
     ⟨"send", none, .empty, .action (some "mail/send") []⟩]
  edges :=
    [edge "start" "check" none, edge "check" "sort" (some "default"),
     edge "check" "sort" (some "large"), edge "sort" "send" (some "done")]

theorem gapped_unconnected :
    (gapped.compile .default "" "").succeeded = true ∧
      let warnings := (gapped.compile .default "" "").warnings
      ∃ entry, gapped.inputs = [entry] ∧
        ∀ condition rows, gapped.Reaches entry condition → condition.payload = .condition rows →
          let unconnected := gapped.unconnected condition rows
          let told := warnings.filter (Warning.isMissingBranchOf condition.id)
          told = (firstRows unconnected).map (.missingBranchEdge condition.id) ∧
          told.length = (unconnected.map BranchRow.id).eraseDups.length ∧
          (gapped.TellsEachBranch warnings condition rows ↔
            (unconnected.map BranchRow.id).Nodup) := by
  have succeeded : (gapped.compile .default "" "").succeeded = true := by decide +kernel
  exact ⟨succeeded, compile_unconnected succeeded⟩

/-- Two branches with the id `b`. -/
def doubledRows : List BranchRow :=
  [⟨"b", "One", "x == 1"⟩, ⟨"b", "Two", "x == 2"⟩]

/-- A condition with two branches of one id, and no edge for them. -/
def doubled : Graph where
  nodes := [⟨"input", none, .empty, .input []⟩, ⟨"c", none, .empty, .condition doubledRows⟩]
  edges := [edge "input" "c" none]

/-- The second of two branches with one id goes without a warning. -/
theorem doubled_branch_untold :
    (doubled.compile .default "" "").succeeded = true ∧
      ∃ entry condition rows, doubled.inputs = [entry] ∧ doubled.Reaches entry condition ∧
        condition.payload = .condition rows ∧
        ¬doubled.TellsEachBranch (doubled.compile .default "" "").warnings condition rows ∧
        (doubled.compile .default "" "").warnings.map Warning.message =
          ["Branch 'One' of condition 'c' is not connected"] := by
  refine ⟨by decide +kernel, ⟨"input", none, .empty, .input []⟩,
    ⟨"c", none, .empty, .condition doubledRows⟩, doubledRows, rfl, ?_, rfl, ?_, ?_⟩
  · apply Relation.ReflTransGen.single
    exact ⟨edge "input" "c" none, by decide +kernel, rfl⟩
  · rintro ⟨all, -⟩
    revert all
    decide +kernel
  · decide +kernel

end Graph

end Flowchart
