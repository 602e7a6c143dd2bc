import Flowchart.Text.Blank
import Mathlib.Data.List.TakeWhile

/-!
What trimming leaves of a text: it is the text with skipped code points around it, and it does not
change when it is trimmed again.
-/

namespace Flowchart

theorem all_dropWhile {skip : Code → Bool} {cs : List Code} :
    (cs.dropWhile skip).all skip = cs.all skip := by
  induction cs with
  | nil => rfl
  | cons c rest inductionHypothesis =>
      by_cases skipped : skip c = true <;> simp_all

theorem trimBy_eq_nil_iff {skip : Code → Bool} {cs : List Code} :
    trimBy skip cs = [] ↔ cs.all skip = true := by
  simp only [trimBy, List.reverse_eq_nil_iff, List.dropWhile_eq_nil_iff, ← List.all_eq_true,
    List.all_reverse, all_dropWhile]

/-- What is skipped at the ends of a text does not count. -/
theorem trimBy_around {skip : Code → Bool} {before core after : List Code}
    (front : before.all skip = true) (back : after.all skip = true) :
    trimBy skip (before ++ core ++ after) = trimBy skip core := by
  have backwards : after.reverse.all skip = true := by rw [List.all_reverse, back]
  rw [trimBy, trimBy, List.append_assoc,
    List.dropWhile_append_of_pos (List.all_eq_true.mp front), List.dropWhile_append]
  split
  · next nothing =>
    -- Nothing but what is skipped: the end is all there is left to look at.
    have noneLeft : core.dropWhile skip = [] := List.isEmpty_iff.mp nothing
    rw [noneLeft, List.dropWhile_eq_nil_iff.mpr (List.all_eq_true.mp back)]
  · rw [List.reverse_append, List.dropWhile_append_of_pos (List.all_eq_true.mp backwards)]

/-- A text is what trimming leaves of it with skipped code points around. -/
theorem exists_around_trimBy (skip : Code → Bool) (cs : List Code) :
    ∃ before after, before.all skip = true ∧ after.all skip = true ∧
      cs = before ++ trimBy skip cs ++ after := by
  refine ⟨cs.takeWhile skip, ((cs.dropWhile skip).reverse.takeWhile skip).reverse,
    List.all_takeWhile, ?_, ?_⟩
  · rw [List.all_reverse, List.all_takeWhile]
  · rw [trimBy, List.append_assoc, ← List.reverse_append, List.takeWhile_append_dropWhile,
      List.reverse_reverse, List.takeWhile_append_dropWhile]

theorem trimBy_trimBy (skip : Code → Bool) (cs : List Code) :
    trimBy skip (trimBy skip cs) = trimBy skip cs := by
  obtain ⟨before, after, front, back, whole⟩ := exists_around_trimBy skip cs
  calc trimBy skip (trimBy skip cs)
      = trimBy skip (before ++ trimBy skip cs ++ after) := (trimBy_around front back).symm
    _ = trimBy skip cs := by rw [← whole]

theorem strip_strip (text : Text) : strip (strip text) = strip text := by
  rw [strip, strip, trimBy_trimBy]

/-- A text is blank exactly when nothing of it is left after stripping. -/
theorem strip_eq_empty_iff {text : Text} : strip text = "" ↔ isBlankText text = true := by
  rw [Text.eq_empty_iff, strip, isBlankText, trimBy_eq_nil_iff]

end Flowchart
