import Mathlib.Data.List.Induction
import Mathlib.Data.List.Nodup

/-!
First occurrences. `eraseDups` keeps every member of a list once, where it first stands; what else
is known of it follows from what one more member at the end does.
-/

namespace Flowchart

variable {α β : Type} [DecidableEq α] [DecidableEq β]

theorem eraseDups_concat (list : List α) (last : α) :
    (list ++ [last]).eraseDups =
      if last ∈ list then list.eraseDups else list.eraseDups ++ [last] := by
  rw [List.eraseDups_append]
  by_cases known : last ∈ list <;> simp [List.removeAll, List.eraseDups_cons, known]

theorem nodup_eraseDups (list : List α) : list.eraseDups.Nodup := by
  induction list using List.reverseRecOn with
  | nil => simp
  | append_singleton list last inductionHypothesis =>
      rw [eraseDups_concat]
      split
      · exact inductionHypothesis
      · next fresh =>
        exact inductionHypothesis.append (List.nodup_singleton last) (by simpa using fresh)

theorem eraseDups_filter (keep : α → Bool) (list : List α) :
    (list.filter keep).eraseDups = list.eraseDups.filter keep := by
  induction list using List.reverseRecOn with
  | nil => rfl
  | append_singleton list last inductionHypothesis =>
      rw [List.filter_append, eraseDups_concat]
      by_cases kept : keep last = true
      · rw [List.filter_cons_of_pos kept, List.filter_nil, eraseDups_concat]
        by_cases known : last ∈ list <;> simp [known, kept, inductionHypothesis]
      · rw [List.filter_cons_of_neg kept, List.filter_nil, List.append_nil, inductionHypothesis]
        by_cases known : last ∈ list <;> simp [known, kept]

/-- A change that tells the members of a list apart keeps their first occurrences. -/
theorem eraseDups_map {change : α → β} {list : List α}
    (apart : ∀ first ∈ list, ∀ second ∈ list, change first = change second → first = second) :
    (list.map change).eraseDups = list.eraseDups.map change := by
  induction list using List.reverseRecOn with
  | nil => rfl
  | append_singleton list last inductionHypothesis =>
      have known_iff : change last ∈ list.map change ↔ last ∈ list := by
        constructor
        · intro inImage
          obtain ⟨known, isKnown, same⟩ := List.mem_map.mp inImage
          rw [← apart known (by simp [isKnown]) last (by simp) same]
          exact isKnown
        · exact List.mem_map_of_mem
      have before := inductionHypothesis fun first firstKnown second secondKnown =>
        apart first (by simp [firstKnown]) second (by simp [secondKnown])
      rw [List.map_append, List.map_singleton, eraseDups_concat, eraseDups_concat, before]
      by_cases known : last ∈ list
      · rw [if_pos (known_iff.mpr known), if_pos known]
      · rw [if_neg (mt known_iff.mp known), if_neg known, List.map_append, List.map_singleton]

theorem eraseDups_of_nodup {list : List α} (distinct : list.Nodup) : list.eraseDups = list := by
  induction list using List.reverseRecOn with
  | nil => rfl
  | append_singleton list last inductionHypothesis =>
      obtain ⟨before, -, apart⟩ := List.nodup_append'.mp distinct
      have new : last ∉ list := fun known => apart known (List.mem_singleton_self last)
      rw [eraseDups_concat, if_neg new, inductionHypothesis before]

/-- The members of a list, each once and in the order in which they first stand there. -/
structure ListsFirsts (firsts list : List α) : Prop where
  distinct : firsts.Nodup
  mem_iff : ∀ item, item ∈ firsts ↔ item ∈ list
  inOrder : firsts.Pairwise fun first second => list.idxOf first < list.idxOf second

namespace ListsFirsts

variable {firsts list : List α} {last : α}

theorem nil : ListsFirsts ([] : List α) [] :=
  ⟨List.nodup_nil, fun _ => Iff.rfl, List.Pairwise.nil⟩

/-- What is appended leaves the places of the members before it as they are. -/
theorem inOrder_concat (listed : ListsFirsts firsts list) (last : α) :
    firsts.Pairwise fun first second =>
      (list ++ [last]).idxOf first < (list ++ [last]).idxOf second := by
  apply listed.inOrder.imp_of_mem
  intro first second isFirst isSecond earlier
  rw [List.idxOf_append_of_mem ((listed.mem_iff first).mp isFirst),
    List.idxOf_append_of_mem ((listed.mem_iff second).mp isSecond)]
  exact earlier

theorem concat_known (listed : ListsFirsts firsts list) (known : last ∈ list) :
    ListsFirsts firsts (list ++ [last]) where
  distinct := listed.distinct
  mem_iff item := by
    rw [listed.mem_iff, List.mem_append, List.mem_singleton]
    constructor
    · exact .inl
    · rintro (member | rfl)
      · exact member
      · exact known
  inOrder := listed.inOrder_concat last

theorem concat_new (listed : ListsFirsts firsts list) (new : last ∉ list) :
    ListsFirsts (firsts ++ [last]) (list ++ [last]) where
  distinct := by
    apply listed.distinct.append (List.nodup_singleton last)
    rw [List.disjoint_singleton, listed.mem_iff]
    exact new
  mem_iff item := by
    rw [List.mem_append, List.mem_append, listed.mem_iff]
  inOrder := by
    rw [List.pairwise_append]
    refine ⟨listed.inOrder_concat last, List.pairwise_singleton _ last, ?_⟩
    intro first isFirst second isLast
    obtain rfl := List.mem_singleton.mp isLast
    have member := (listed.mem_iff first).mp isFirst
    rw [List.idxOf_append_of_mem member, List.idxOf_append_of_notMem new]
    exact Nat.lt_add_right _ (List.idxOf_lt_length_iff.mpr member)

end ListsFirsts

end Flowchart
