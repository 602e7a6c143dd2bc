import Flowchart.Proofs.Reachability
import Flowchart.Proofs.Unconnected

/-!
What the path above a walk decides. It decides whether the walk ends with a cycle and nothing else:
walks from one node that complete are equal, whatever their paths. All walks of a compilation write
into one ledger, so a walk is looked at with the ledger that it starts with; a walk from a node that
was walked from before adds no warning to it.
-/

namespace Flowchart

/-- What the walks of one compilation have reported so far. -/
structure Ledger where
  compiled : List Text
  warnings : List Warning
  deriving DecidableEq

namespace Ledger

def empty : Ledger := ⟨[], []⟩

def keys (ledger : Ledger) : List Warning.Key :=
  ledger.warnings.map Warning.key

/-- Puts down one note. A warning whose key is there already is not reported again. -/
def put (ledger : Ledger) : Note → Ledger
  | .compiled node => { ledger with compiled := ledger.compiled ++ [node] }
  | .warned warning =>
      if warning.key ∈ ledger.keys then ledger
      else { ledger with warnings := ledger.warnings ++ [warning] }

def putAll (ledger : Ledger) (log : List Note) : Ledger :=
  log.foldl put ledger

theorem putAll_append (ledger : Ledger) (first second : List Note) :
    ledger.putAll (first ++ second) = (ledger.putAll first).putAll second :=
  List.foldl_append

theorem compiled_putAll (ledger : Ledger) (log : List Note) :
    (ledger.putAll log).compiled = ledger.compiled ++ log.filterMap Note.compiled? := by
  induction log generalizing ledger with
  | nil => simp [putAll]
  | cons entry rest inductionHypothesis =>
      rw [putAll, List.foldl_cons, ← putAll, inductionHypothesis]
      cases entry with
      | compiled node => simp [put, Note.compiled?]
      | warned warning =>
          rw [put, List.filterMap_cons_none rfl]
          split <;> rfl

theorem warnings_putAll (ledger : Ledger) (log : List Note) :
    (ledger.putAll log).warnings =
      ledger.warnings ++ Warning.distinct ledger.keys (log.filterMap Note.warning?) := by
  induction log generalizing ledger with
  | nil => simp [putAll, Warning.distinct]
  | cons entry rest inductionHypothesis =>
      rw [putAll, List.foldl_cons, ← putAll, inductionHypothesis]
      cases entry with
      | compiled node => rfl
      | warned warning =>
          have first : (.warned warning :: rest : List Note).filterMap Note.warning? =
              warning :: rest.filterMap Note.warning? := rfl
          rw [first, Warning.distinct, put]
          split
          · rfl
          · -- The new key stands last in the ledger and first in what is seen.
            rw [List.append_assoc, List.singleton_append]
            congr 2
            apply Warning.distinct_congr
            intro other _
            simp [keys, or_comm]

/-- Once a log is put down, the key of each of its warnings is there. -/
theorem key_mem_putAll {ledger : Ledger} {log : List Note} {warning : Warning}
    (noted : warning ∈ log.filterMap Note.warning?) : warning.key ∈ (ledger.putAll log).keys := by
  by_cases known : warning.key ∈ ledger.keys
  · rw [keys, warnings_putAll, List.map_append]
    exact List.mem_append_left _ known
  · rw [keys, warnings_putAll, List.map_append, Warning.map_key_distinct]
    apply List.mem_append_right
    rw [List.mem_eraseDups, List.mem_filter]
    exact ⟨List.mem_map_of_mem noted, decide_eq_true known⟩

/-- A log whose warnings are known by their keys adds none. -/
theorem warnings_putAll_of_known {ledger : Ledger} {log : List Note}
    (known : ∀ warning ∈ log.filterMap Note.warning?, warning.key ∈ ledger.keys) :
    (ledger.putAll log).warnings = ledger.warnings := by
  rw [warnings_putAll, Warning.distinct_of_known known, List.append_nil]

end Ledger

namespace Trace

variable {α β : Type}

/-- How a trace ends that starts with a ledger, and what it makes of the ledger. -/
def within (trace : Trace α) (ledger : Ledger) : Except (List Text) α × Ledger :=
  (trace.outcome, ledger.putAll trace.log)

/-- What goes on starts with the ledger as it was left. -/
theorem within_bind (trace : Trace α) (next : α → Trace β) (ledger : Ledger) :
    (trace >>= next).within ledger =
      match trace.within ledger with
      | (.ok value, after) => (next value).within after
      | (.error ids, after) => (.error ids, after) := by
  obtain ⟨log, outcome⟩ := trace
  cases outcome with
  | error ids => rfl
  | ok value => rw [ok_bind, within, Ledger.putAll_append]; rfl

/-- What a trace reports is what it makes of an empty ledger. -/
theorem within_empty (trace : Trace α) :
    trace.within .empty = (trace.outcome, ⟨trace.compiled, trace.warnings⟩) := by
  have reported : Ledger.empty.putAll trace.log =
      ⟨(Ledger.empty.putAll trace.log).compiled, (Ledger.empty.putAll trace.log).warnings⟩ := rfl
  rw [within, reported, Ledger.compiled_putAll, Ledger.warnings_putAll]
  rfl

theorem completes_of_within {trace : Trace α} {ledger after : Ledger} {value : α}
    (ended : trace.within ledger = (.ok value, after)) : trace.completes = true :=
  completes_iff.mpr ⟨value, congrArg Prod.fst ended⟩

end Trace

namespace Graph

variable {graph : Graph} {above other : List Text} {node : graph.Member}

/-- A walk that completes goes on completing when ids are taken from its path. -/
theorem completes_walk_of_subset (fewer : above ⊆ other)
    (completed : (graph.walk other node).completes = true) :
    (graph.walk above node).completes = true := by
  rw [completes_walk_iff] at completed ⊢
  intro rest chain
  have clear := completed rest chain
  exact ⟨clear.1, List.disjoint_of_subset_right fewer clear.2⟩

theorem reaches_of_isChain {first target : Node} {rest : List Node}
    (chain : (first :: rest).IsChain graph.Follows) (member : target ∈ first :: rest) :
    graph.Reaches first target := by
  induction rest generalizing first with
  | nil =>
      rw [List.mem_singleton.mp member]
      exact .refl
  | cons next rest inductionHypothesis =>
      obtain ⟨step, chain⟩ := List.isChain_cons_cons.mp chain
      rcases List.mem_cons.mp member with rfl | isLater
      · exact .refl
      · exact (inductionHypothesis chain isLater).head step

/-- A walk that completes does so below every path without an id that it can meet. -/
theorem completes_walk_of_unreached (unreached : ∀ id ∈ other, ¬graph.ReachesId node id)
    (completed : (graph.walk above node).completes = true) :
    (graph.walk other node).completes = true := by
  rw [completes_walk_iff] at completed ⊢
  intro rest chain
  refine ⟨(completed rest chain).1, ?_⟩
  intro id member isAbove
  obtain ⟨met, among, named⟩ := List.mem_map.mp member
  exact unreached id isAbove ⟨met, reaches_of_isChain chain among, named⟩

/-- Walks from one node that complete are equal. -/
theorem walk_eq_of_completes (completed : (graph.walk above node).completes = true)
    (again : (graph.walk other node).completes = true) :
    graph.walk above node = graph.walk other node := by
  have modules := (unfolds_walk (fun _ _ each => modules_expand each) completed).unique
    isLocal_unroll (unfolds_walk (fun _ _ each => modules_expand each) again)
  have log := (unfolds_walk (fun _ _ each => log_expand each) completed).unique
    (isLocal_listing _ _) (unfolds_walk (fun _ _ each => log_expand each) again)
  have outcome : (graph.walk above node).outcome = (graph.walk other node).outcome := by
    rw [Trace.outcome_eq_modules completed, Trace.outcome_eq_modules again, modules]
  generalize graph.walk above node = first, graph.walk other node = second at log outcome
  cases first
  cases second
  rw [Trace.mk.injEq]
  exact ⟨log, outcome⟩

/-- The path above a walk decides only whether it ends with a cycle. What a walk gives and makes of a
ledger it also does with fewer ids above it, and with any ids above it that it cannot meet. A later
walk from the same node that completes, whatever stands above it, gives the same modules and adds no
warning to a ledger that has those of the first one. -/
theorem walk_independent_of_path (graph : Graph) (start : graph.Member) (above other : List Text)
    (ledger after : Ledger) (modules : List Module) :
    (above ⊆ other →
      (graph.walk other start).within ledger = (.ok modules, after) →
        (graph.walk above start).within ledger = (.ok modules, after)) ∧
    ((∀ id ∈ other, ¬graph.ReachesId start id) →
      (graph.walk above start).within ledger = (.ok modules, after) →
        (graph.walk other start).within ledger = (.ok modules, after)) ∧
    ∀ later ended again,
      (graph.walk above start).within ledger = (.ok modules, after) →
      after.warnings ⊆ later.warnings →
      (graph.walk other start).within later = (.ok again, ended) →
        again = modules ∧ ended.warnings = later.warnings := by
  refine ⟨?_, ?_, ?_⟩
  · intro fewer ended
    have completed := Trace.completes_of_within ended
    rw [walk_eq_of_completes (completes_walk_of_subset fewer completed) completed, ended]
  · intro unreached ended
    have completed := Trace.completes_of_within ended
    rw [walk_eq_of_completes (completes_walk_of_unreached unreached completed) completed, ended]
  · intro later ended again first kept second
    have same := walk_eq_of_completes (Trace.completes_of_within first)
      (Trace.completes_of_within second)
    rw [← same] at second
    obtain ⟨gave, rfl⟩ := Prod.mk.inj first
    obtain ⟨gaveAgain, rfl⟩ := Prod.mk.inj second
    refine ⟨Except.ok.inj (gaveAgain.symm.trans gave), ?_⟩
    apply Ledger.warnings_putAll_of_known
    intro warning noted
    exact List.map_subset Warning.key kept (Ledger.key_mem_putAll noted)

/-- Two branches lead to the action: what follows it is compiled twice and warned about once. -/
theorem forked_walk_independent_of_path :
    ∃ (send : forked.Member) (modules : List Module),
      let before : Ledger := ⟨["check"], []⟩
      let after : Ledger := ⟨["check", "send", "done"], [.incompleteAction "done"]⟩
      (∀ id ∈ (["start", "check"] : List Text), ¬forked.ReachesId send id) ∧
      (["check"] : List Text) ⊆ ["start", "check"] ∧
      (forked.walk ["check"] send).within before = (.ok modules, after) ∧
      (forked.walk ["start", "check"] send).within before = (.ok modules, after) ∧
      ∃ again ended, (forked.walk ["start", "check"] send).within after = (.ok again, ended) ∧
        again = modules ∧ ended.warnings = after.warnings := by
  let send : forked.Member := ⟨forked.nodes[2], List.getElem_mem _⟩
  let walked := forked.walk ["start", "check"] send
  let after : Ledger := ⟨["check", "send", "done"], [.incompleteAction "done"]⟩
  have completes : walked.completes = true := by decide +kernel
  have left : (walked.within ⟨["check"], []⟩).2 = after := by decide +kernel
  have unreached : ∀ id ∈ (["start", "check"] : List Text), ¬forked.ReachesId send id := by
    decide +kernel
  obtain ⟨modules, gave⟩ := Trace.completes_iff.mp completes
  have again : walked.within after = (.ok modules, after.putAll walked.log) := Prod.ext gave rfl
  obtain ⟨fewer, more, further⟩ :=
    walk_independent_of_path forked send ["check"] ["start", "check"] ⟨["check"], []⟩ after modules
  have first := fewer (by decide) (Prod.ext gave left)
  exact ⟨send, modules, unreached, by decide, first, more unreached first, modules, _, again,
    further _ _ _ first (List.Subset.refl _) again⟩

end Graph

end Flowchart
