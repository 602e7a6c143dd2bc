import Flowchart.Compile.Warning

/-!
What a walk leaves behind: a log of the nodes compiled and the warnings met, in order, and either a
result or the cycle that ended the walk. The log stays when a cycle is met.
-/

namespace Flowchart

inductive Note where
  | compiled (node : Text)
  | warned (warning : Warning)
  deriving DecidableEq, Repr

structure Trace (α : Type) where
  log : List Note
  outcome : Except (List Text) α

namespace Trace

variable {α β : Type}

def pure (value : α) : Trace α := ⟨[], .ok value⟩

/-- Goes on from the result of a trace, if there is one. -/
def bind (trace : Trace α) (next : α → Trace β) : Trace β :=
  match trace.outcome with
  | .error cycle => ⟨trace.log, .error cycle⟩
  | .ok value =>
      let after := next value
      ⟨trace.log ++ after.log, after.outcome⟩

instance : Monad Trace where
  pure := pure
  bind := bind

def note (entry : Note) : Trace Unit := ⟨[entry], .ok ()⟩

def warn (warning : Warning) : Trace Unit := note (.warned warning)

/-- Warns only in the given case. -/
def warnIf (case : Prop) [Decidable case] (warning : Warning) : Trace Unit :=
  if case then warn warning else pure ()

/-- Ends a walk with a list of ids that starts and ends with the same one. -/
def cycle (ids : List Text) : Trace α := ⟨[], .error ids⟩

/-- Runs over a list and keeps what is there. -/
def collect (step : α → Trace (Option β)) : List α → Trace (List β)
  | [] => pure []
  | first :: rest =>
      bind (step first) fun kept? => bind (collect step rest) fun kept => pure (kept?.toList ++ kept)

theorem id_map (trace : Trace α) : id <$> trace = trace := by
  obtain ⟨log, outcome⟩ := trace
  cases outcome <;> simp [Functor.map, bind, pure]

theorem pure_bind (value : α) (next : α → Trace β) : bind (pure value) next = next value := by
  simp [bind, pure]

theorem bind_assoc {γ : Type} (trace : Trace α) (next : α → Trace β) (last : β → Trace γ) :
    bind (bind trace next) last = bind trace fun value => bind (next value) last := by
  obtain ⟨log, outcome⟩ := trace
  cases outcome with
  | error => rfl
  | ok value =>
      simp only [bind]
      split <;> simp_all

instance : LawfulMonad Trace :=
  LawfulMonad.mk' Trace id_map pure_bind bind_assoc

@[simp]
theorem cycle_bind (ids : List Text) (next : α → Trace β) :
    cycle ids >>= next = cycle ids := rfl

/-- All nodes compiled, in order. -/
def compiled (trace : Trace α) : List Text :=
  trace.log.filterMap fun
    | .compiled node => some node
    | .warned _ => none

/-- All warnings, each reported once. -/
def warnings (trace : Trace α) : List Warning :=
  Warning.distinct [] (trace.log.filterMap fun
    | .compiled _ => none
    | .warned warning => some warning)

end Trace

end Flowchart
