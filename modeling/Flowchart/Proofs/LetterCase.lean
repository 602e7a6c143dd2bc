import Flowchart.Text.LetterCase

/-!
Lower case is settled: a text in lower case stays as it is, since it has no capital in it. No run of
capitals has its small letters among capitals, which the ends of the runs tell: a run takes every
place between them or every other one.
-/

namespace Flowchart

namespace CaseRun

/-- The place of the small letter of a capital. -/
def small (run : CaseRun) (code : Nat) : Nat :=
  (code + run.shift).toNat

/-- Whether the small letters of a run are no capitals of another run: they stand before it, behind
it, or at the places that it leaves out. -/
def misses (run other : CaseRun) : Bool :=
  Nat.blt (run.small run.last) other.first || Nat.blt other.last (run.small run.first) ||
    (other.stride = 2 && (run.stride = 2 || run.first = run.last) && 0 ≤ run.first + run.shift &&
      (run.small run.first + other.first) % 2 = 1)

theorem has_eq_true_iff {run : CaseRun} {code : Nat} :
    run.has code = true ↔
      run.first ≤ code ∧ code ≤ run.last ∧ (code - run.first) % run.stride = 0 := by
  simp [has, and_assoc]

theorem has_small_of_misses {run other : CaseRun} {code : Nat} (missed : run.misses other = true)
    (capital : run.has code = true) : other.has (run.small code) = false := by
  rw [← Bool.not_eq_true, has_eq_true_iff]
  rw [has_eq_true_iff] at capital
  simp only [misses, small, Bool.or_eq_true, Bool.and_eq_true, decide_eq_true_eq,
    Nat.blt_eq] at missed ⊢
  obtain ⟨begins, ends, placed⟩ := capital
  rcases missed with (before | behind) | ⟨⟨⟨everyOther, alsoEveryOther | single⟩, positive⟩, odd⟩
  · omega
  · omega
  · -- Where both runs take every other place, parity tells them apart.
    have apart := of_decide_eq_true odd
    rw [alsoEveryOther] at placed
    rw [everyOther]
    omega
  · have apart := of_decide_eq_true odd
    rw [everyOther]
    omega

end CaseRun

/-- The capital whose small letter takes two characters, as a run. -/
def dottedCapital : CaseRun := ⟨0x130, 0x130, 1, 0⟩

/-- Whether a character has a small letter. -/
def isCapital (c : Code) : Bool :=
  (dottedCapital :: capitalRuns).any (·.has c.toNat)

/-- The table says so: no run has its small letters in another one, or in itself. -/
theorem misses_capitals :
    (capitalRuns.all fun run => (dottedCapital :: capitalRuns).all run.misses) = true := by
  decide +kernel

theorem isCapital_eq_false_iff {c : Code} :
    isCapital c = false ↔ c ≠ 'İ' ∧ ∀ run ∈ capitalRuns, run.has c.toNat = false := by
  have dotted : dottedCapital.has c.toNat = true ↔ c = 'İ' := by
    rw [CaseRun.has_eq_true_iff, ← Code.toNat_inj]
    simp only [dottedCapital, Nat.mod_one, and_true]
    change _ ↔ c.toNat = 0x130
    omega
  rw [isCapital, List.any_cons, Bool.or_eq_false_iff, ← Bool.not_eq_true, dotted,
    List.any_eq_false]
  simp

theorem smallLetter_of_not_capital {c : Code} (small : isCapital c = false) : smallLetter c = c := by
  have notFound : capitalRuns.find? (·.has c.toNat) = none := by
    rw [List.find?_eq_none]
    intro run listed
    simp [(isCapital_eq_false_iff.mp small).2 run listed]
  rw [smallLetter, notFound]

/-- The small letter of a capital is no capital. -/
theorem not_capital_smallLetter {c : Code} (undotted : c ≠ 'İ') :
    isCapital (smallLetter c) = false := by
  rw [smallLetter]
  split
  · next run found =>
    have listed := List.mem_of_find?_eq_some found
    have capital : run.has c.toNat = true := by simpa using List.find?_some found
    have missed := List.all_eq_true.mp (List.all_eq_true.mp misses_capitals run listed)
    change isCapital (.ofNat (run.small c.toNat)) = false
    by_cases inside : run.small c.toNat < 0x110000
    · rw [isCapital, List.any_eq_false, Code.toNat_ofNat inside]
      intro other among
      simp [CaseRun.has_small_of_misses (missed other among) capital]
    · -- A number beyond the last code point stands for the null character.
      rw [Code.ofNat_of_beyond (Nat.not_lt.mp inside)]
      decide +kernel
  · next notFound =>
    rw [isCapital_eq_false_iff]
    refine ⟨undotted, fun run listed => ?_⟩
    simpa using List.find?_eq_none.mp notFound run listed

/-- A text without capitals is its own lower case, whatever stands in front of it. -/
theorem lowerAfter_of_not_capital {before cs : List Code} (small : ∀ c ∈ cs, isCapital c = false) :
    lowerAfter before cs = cs := by
  induction cs generalizing before with
  | nil => rfl
  | cons c rest inductionHypothesis =>
      obtain ⟨first, others⟩ := List.forall_mem_cons.mp small
      rw [lowerAfter, smallLetter_of_not_capital first, inductionHypothesis others]
      · rintro rfl
        exact absurd first (by decide +kernel)
      · rintro rfl
        exact absurd first (by decide +kernel)

theorem not_capital_of_mem_lowerAfter {before cs : List Code} :
    ∀ c ∈ lowerAfter before cs, isCapital c = false := by
  fun_induction lowerAfter before cs with
  | case1 => exact List.forall_mem_nil _
  | case2 before rest inductionHypothesis =>
      refine List.forall_mem_cons.mpr ⟨by decide +kernel, ?_⟩
      exact List.forall_mem_cons.mpr ⟨by decide +kernel, inductionHypothesis⟩
  | case3 before rest inductionHypothesis =>
      refine List.forall_mem_cons.mpr ⟨?_, inductionHypothesis⟩
      split <;> decide +kernel
  | case4 before c rest undotted other inductionHypothesis =>
      exact List.forall_mem_cons.mpr ⟨not_capital_smallLetter undotted, inductionHypothesis⟩

/-- A text in lower case is in lower case already. -/
theorem lower_lower (text : Text) : lower (lower text) = lower text := by
  rw [lower, lower, lowerAfter_of_not_capital not_capital_of_mem_lowerAfter]

end Flowchart
