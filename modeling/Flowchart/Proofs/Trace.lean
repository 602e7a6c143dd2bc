import Flowchart.Compile.Trace

/-!
How the log and the outcome of a trace come from those of its parts. A trace whose result does not
matter is a `void` one: it keeps the log and the cycle.
-/

namespace Flowchart

namespace Note

def warning? : Note → Option Warning
  | compiled _ => none
  | warned warning => some warning

def compiled? : Note → Option Text
  | compiled node => some node
  | warned _ => none

end Note

namespace Trace

variable {α β : Type}

theorem warnings_eq (trace : Trace α) :
    trace.warnings = Warning.distinct [] (trace.log.filterMap Note.warning?) := rfl

theorem compiled_eq (trace : Trace α) :
    trace.compiled = trace.log.filterMap Note.compiled? := rfl

/-- Whether a trace ends with a result. -/
def completes (trace : Trace α) : Bool :=
  trace.outcome.isOk

/-- A trace without its result. -/
def void (trace : Trace α) : Trace Unit :=
  (fun _ => ()) <$> trace

def tell (log : List Note) : Trace Unit :=
  ⟨log, .ok ()⟩

theorem note_eq_tell (entry : Note) : note entry = tell [entry] := rfl

theorem warn_eq_tell (warning : Warning) : warn warning = tell [.warned warning] := rfl

theorem warnIf_eq_tell (case : Prop) [Decidable case] (warning : Warning) :
    warnIf case warning = tell ((if case then [warning] else []).map .warned) := by
  by_cases applies : case
  · simp [warnIf, warn_eq_tell, applies]
  · simp [warnIf, tell, pure, applies]

@[simp]
theorem tell_nil : tell [] = Pure.pure () := rfl

@[simp]
theorem tell_tell (first second : List Note) (next : Unit → Trace α) :
    (do tell first; tell second >>= next) = tell (first ++ second) >>= next := by
  simp [Bind.bind, bind, tell]

theorem completes_tell_then (log : List Note) (next : Unit → Trace α) :
    (tell log >>= next).completes = (next ()).completes := rfl

theorem outcome_tell_then (log : List Note) (next : Unit → Trace α) :
    (tell log >>= next).outcome = (next ()).outcome := rfl

theorem log_tell_then (log : List Note) (next : Unit → Trace α) :
    (tell log >>= next).log = log ++ (next ()).log := rfl

theorem ok_bind (log : List Note) (value : α) (next : α → Trace β) :
    (⟨log, .ok value⟩ : Trace α) >>= next = ⟨log ++ (next value).log, (next value).outcome⟩ := rfl

theorem error_bind (log : List Note) (ids : List Text) (next : α → Trace β) :
    (⟨log, .error ids⟩ : Trace α) >>= next = ⟨log, .error ids⟩ := rfl

@[simp]
theorem ok_map (log : List Note) (value : α) (change : α → β) :
    change <$> (⟨log, .ok value⟩ : Trace α) = ⟨log, .ok (change value)⟩ := by
  simp [map_eq_pure_bind, ok_bind, Pure.pure, pure]

@[simp]
theorem error_map (log : List Note) (ids : List Text) (change : α → β) :
    change <$> (⟨log, .error ids⟩ : Trace α) = ⟨log, .error ids⟩ := rfl

@[simp]
theorem log_map (change : α → β) (trace : Trace α) : (change <$> trace).log = trace.log := by
  obtain ⟨log, outcome⟩ := trace
  cases outcome <;> simp

theorem compiled_map (change : α → β) (trace : Trace α) :
    (change <$> trace).compiled = trace.compiled := by
  rw [compiled_eq, compiled_eq, log_map]

theorem warnings_map (change : α → β) (trace : Trace α) :
    (change <$> trace).warnings = trace.warnings := by
  rw [warnings_eq, warnings_eq, log_map]

@[simp]
theorem completes_map (change : α → β) (trace : Trace α) :
    (change <$> trace).completes = trace.completes := by
  obtain ⟨log, outcome⟩ := trace
  cases outcome <;> simp [completes, Except.isOk, Except.toBool]

@[simp]
theorem void_tell (log : List Note) : (tell log).void = tell log := by
  simp [void, tell]

@[simp]
theorem void_pure (value : α) : (Pure.pure value : Trace α).void = Pure.pure () := rfl

@[simp]
theorem log_void (trace : Trace α) : trace.void.log = trace.log :=
  log_map _ trace

@[simp]
theorem completes_void (trace : Trace α) : trace.void.completes = trace.completes :=
  completes_map _ trace

@[simp]
theorem void_map (change : α → β) (trace : Trace α) : (change <$> trace).void = trace.void := by
  simp [void]

@[simp]
theorem void_bind (trace : Trace α) (next : α → Trace β) :
    (trace >>= next).void = trace >>= fun value => (next value).void := by
  simp [void, map_bind]

/-- What goes on from a void trace goes on from the trace itself. -/
theorem void_then (trace : Trace α) (next : Unit → Trace β) :
    trace.void >>= next = trace >>= fun _ => next () := by
  simp [void]

theorem collect_cons (step : α → Trace (Option β)) (item : α) (items : List α) :
    collect step (item :: items) = do
      let kept? ← step item
      let kept ← collect step items
      return kept?.toList ++ kept := rfl

theorem collect_congr {step other : α → Trace (Option β)} {items : List α}
    (same : ∀ item ∈ items, step item = other item) : collect step items = collect other items := by
  induction items with
  | nil => rfl
  | cons item items inductionHypothesis =>
      rw [collect_cons, collect_cons, same item List.mem_cons_self,
        inductionHypothesis fun later member => same later (List.mem_cons_of_mem _ member)]

theorem void_collect (step : α → Trace (Option β)) (items : List α) :
    (collect step items).void = forM items fun item => (step item).void := by
  induction items with
  | nil => rfl
  | cons item items inductionHypothesis =>
      rw [collect_cons, List.forM_cons, void_then, ← inductionHypothesis]
      simp

theorem completes_iff {trace : Trace α} :
    trace.completes = true ↔ ∃ value, trace.outcome = .ok value := by
  obtain ⟨log, outcome⟩ := trace
  cases outcome <;> simp [completes, Except.isOk, Except.toBool]

theorem completes_bind_iff {trace : Trace α} {next : α → Trace β} :
    (trace >>= next).completes = true ↔
      ∃ value, trace.outcome = .ok value ∧ (next value).completes = true := by
  obtain ⟨log, outcome⟩ := trace
  cases outcome <;> simp [ok_bind, error_bind, completes, Except.isOk, Except.toBool]

theorem outcome_void_eq_error_iff {trace : Trace α} {ids : List Text} :
    trace.void.outcome = .error ids ↔ trace.outcome = .error ids := by
  obtain ⟨log, outcome⟩ := trace
  cases outcome <;> simp [void]

theorem outcome_bind_eq_error_iff {trace : Trace α} {next : α → Trace β} {ids : List Text} :
    (trace >>= next).outcome = .error ids ↔
      trace.outcome = .error ids ∨
        ∃ value, trace.outcome = .ok value ∧ (next value).outcome = .error ids := by
  obtain ⟨log, outcome⟩ := trace
  cases outcome <;> simp [ok_bind, error_bind]

theorem mem_log_bind {trace : Trace α} {next : α → Trace β} {entry : Note}
    (noted : entry ∈ (trace >>= next).log) :
    entry ∈ trace.log ∨ ∃ value, entry ∈ (next value).log := by
  obtain ⟨log, outcome⟩ := trace
  cases outcome with
  | error ids => exact .inl noted
  | ok value =>
      rw [ok_bind, List.mem_append] at noted
      exact noted.imp_right fun later => ⟨value, later⟩

theorem outcome_bind {trace : Trace α} {value : α} (ended : trace.outcome = .ok value)
    (next : α → Trace β) : (trace >>= next).outcome = (next value).outcome := by
  obtain ⟨log, outcome⟩ := trace
  subst ended
  rfl

theorem log_bind {trace : Trace α} {value : α} (ended : trace.outcome = .ok value)
    (next : α → Trace β) : (trace >>= next).log = trace.log ++ (next value).log := by
  obtain ⟨log, outcome⟩ := trace
  subst ended
  rfl

theorem outcome_map {trace : Trace α} {value : α} (ended : trace.outcome = .ok value)
    (change : α → β) : (change <$> trace).outcome = .ok (change value) := by
  rw [map_eq_pure_bind, outcome_bind ended]
  rfl

theorem outcome_collect {step : α → Trace (Option β)} {kept? : α → Option β} {items : List α}
    (ended : ∀ item ∈ items, (step item).outcome = .ok (kept? item)) :
    (collect step items).outcome = .ok (items.filterMap kept?) := by
  induction items with
  | nil => rfl
  | cons item items inductionHypothesis =>
      have rest := inductionHypothesis fun later member => ended later (List.mem_cons_of_mem _ member)
      rw [collect_cons, outcome_bind (ended item List.mem_cons_self), outcome_bind rest]
      cases kept : kept? item <;> simp [kept, Pure.pure, pure]

theorem completes_forM_iff {step : α → Trace Unit} {items : List α} :
    (forM items step).completes = true ↔ ∀ item ∈ items, (step item).completes = true := by
  induction items with
  | nil => simp [completes, Pure.pure, pure, Except.isOk, Except.toBool]
  | cons item items inductionHypothesis =>
      rw [List.forM_cons, completes_bind_iff, exists_and_right, ← completes_iff,
        List.forall_mem_cons, inductionHypothesis]

/-- What ends a run over a list is the first item that does not complete. -/
theorem exists_of_forM_eq_error {step : α → Trace Unit} {items : List α} {ids : List Text}
    (failed : (forM items step).outcome = .error ids) :
    ∃ before item after, items = before ++ item :: after ∧
      (∀ earlier ∈ before, (step earlier).completes = true) ∧
      (step item).outcome = .error ids := by
  induction items with
  | nil => simp [Pure.pure, pure] at failed
  | cons first rest inductionHypothesis =>
      rw [List.forM_cons, outcome_bind_eq_error_iff] at failed
      rcases failed with here | ⟨value, ended, later⟩
      · exact ⟨[], first, rest, rfl, List.forall_mem_nil _, here⟩
      · obtain ⟨before, item, after, rfl, completed, there⟩ := inductionHypothesis later
        refine ⟨first :: before, item, after, rfl, ?_, there⟩
        exact List.forall_mem_cons.mpr ⟨completes_iff.mpr ⟨value, ended⟩, completed⟩

theorem exists_of_mem_log_forM {step : α → Trace Unit} {items : List α} {entry : Note}
    (noted : entry ∈ (forM items step).log) : ∃ item ∈ items, entry ∈ (step item).log := by
  induction items with
  | nil => exact absurd noted List.not_mem_nil
  | cons first rest inductionHypothesis =>
      rw [List.forM_cons] at noted
      rcases mem_log_bind noted with here | ⟨_, later⟩
      · exact ⟨first, List.mem_cons_self, here⟩
      · obtain ⟨item, member, there⟩ := inductionHypothesis later
        exact ⟨item, List.mem_cons_of_mem first member, there⟩

theorem log_forM {step : α → Trace Unit} {items : List α}
    (completed : ∀ item ∈ items, (step item).completes = true) :
    (forM items step).log = items.flatMap fun item => (step item).log := by
  induction items with
  | nil => rfl
  | cons item items inductionHypothesis =>
      obtain ⟨value, ended⟩ := completes_iff.mp (completed item List.mem_cons_self)
      rw [List.forM_cons, log_bind ended, List.flatMap_cons,
        inductionHypothesis fun later member => completed later (List.mem_cons_of_mem _ member)]

end Trace

end Flowchart
