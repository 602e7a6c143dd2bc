import Flowchart.Keyed
import Flowchart.Proofs.FirstOccurrence

/-!
Maps from names by what is seen of them: the names in order, and the value under each. Two maps
that show the same are the same, so a map made of a list of entries is known as soon as its names
(each at its first place) and its values (the last under each name) are.
-/

namespace Flowchart

variable {α : Type}

theorem lookup_cons_of_ne {name key : Text} (other : name ≠ key) (value : α)
    (rest : List (Text × α)) : ((key, value) :: rest).lookup name = rest.lookup name := by
  rw [List.lookup_cons, beq_false_of_ne other]

theorem lookup_eq_none_iff_not_mem {name : Text} {entries : List (Text × α)} :
    entries.lookup name = none ↔ name ∉ entries.map Prod.fst := by
  rw [List.lookup_eq_none_iff, List.mem_map]
  constructor
  · rintro different ⟨entry, member, rfl⟩
    simpa using different entry member
  · intro absent entry member
    rw [bne_iff_ne]
    exact fun same => absent ⟨entry, member, same.symm⟩

/-- An entry in the midst of others does not hide them. -/
theorem lookup_insert_of_ne {name asked : Text} (other : asked ≠ name) (value : α)
    (before after : List (Text × α)) :
    (before ++ (name, value) :: after).lookup asked = (before ++ after).lookup asked := by
  rw [List.lookup_append, List.lookup_append, lookup_cons_of_ne other]

theorem lookup_insert_self {name : Text} {before after : List (Text × α)}
    (new : name ∉ (before ++ after).map Prod.fst) (value : α) :
    (before ++ (name, value) :: after).lookup name = some value := by
  rw [List.map_append, List.mem_append, not_or] at new
  rw [List.lookup_append, lookup_eq_none_iff_not_mem.mpr new.1, Option.none_or,
    List.lookup_cons_self]

/-- Where no name is repeated, the order of entries does not matter. -/
theorem lookup_perm {entries others : List (Text × α)} (order : entries.Perm others)
    (distinct : (entries.map Prod.fst).Nodup) (name : Text) :
    entries.lookup name = others.lookup name := by
  induction order with
  | nil => rfl
  | cons entry _ inductionHypothesis =>
      rw [List.map_cons, List.nodup_cons] at distinct
      rw [List.lookup_cons, List.lookup_cons, inductionHypothesis distinct.2]
  | swap first second rest =>
      obtain ⟨firstKey, firstValue⟩ := first
      obtain ⟨secondKey, secondValue⟩ := second
      have different : secondKey ≠ firstKey := by
        intro same
        simp [same] at distinct
      by_cases isFirst : name = firstKey
      · subst isFirst
        rw [lookup_cons_of_ne different.symm, List.lookup_cons_self, List.lookup_cons_self]
      · simp only [List.lookup_cons, beq_false_of_ne isFirst]
  | trans earlier _ first second =>
      rw [first distinct, second ((earlier.map Prod.fst).nodup_iff.mp distinct)]

theorem lookup_putEntry (name asked : Text) (value : α) (entries : List (Text × α)) :
    (putEntry name value entries).lookup asked =
      if asked = name then some value else entries.lookup asked := by
  induction entries with
  | nil =>
      by_cases same : asked = name
      · simp [putEntry, same]
      · simp [putEntry, lookup_cons_of_ne same, same]
  | cons entry rest inductionHypothesis =>
      obtain ⟨key, first⟩ := entry
      by_cases replaced : key = name
      · subst replaced
        by_cases same : asked = key
        · simp [putEntry, same]
        · simp [putEntry, lookup_cons_of_ne same, same]
      · by_cases same : asked = key
        · simp [putEntry, replaced, same]
        · simpa [putEntry, replaced, lookup_cons_of_ne same] using inductionHypothesis

theorem mem_of_mem_putEntry {name : Text} {value : α} {entry : Text × α}
    {entries : List (Text × α)} (member : entry ∈ putEntry name value entries) :
    entry = (name, value) ∨ entry ∈ entries := by
  induction entries with
  | nil => exact .inl (List.mem_singleton.mp member)
  | cons first rest inductionHypothesis =>
      rw [putEntry] at member
      split at member
      · exact (List.mem_cons.mp member).imp_right (List.mem_cons_of_mem first)
      · rcases List.mem_cons.mp member with rfl | later
        · exact .inr List.mem_cons_self
        · exact (inductionHypothesis later).imp_right (List.mem_cons_of_mem first)

theorem putEntry_of_not_mem {name : Text} {entries : List (Text × α)}
    (new : name ∉ entries.map Prod.fst) (value : α) :
    putEntry name value entries = entries ++ [(name, value)] := by
  induction entries with
  | nil => rfl
  | cons entry rest inductionHypothesis =>
      rw [List.map_cons, List.mem_cons, not_or] at new
      rw [putEntry, if_neg fun same => new.1 same.symm, inductionHypothesis new.2]
      rfl

namespace Keyed

/-- The value under a name. -/
def get? (map : Keyed α) (name : Text) : Option α :=
  map.entries.lookup name

@[simp]
theorem get?_put (map : Keyed α) (name other : Text) (value : α) :
    (map.put name value).get? other = if other = name then some value else map.get? other :=
  lookup_putEntry name other value map.entries

/-- The entry of a name in a list of entries. -/
def entryIn (entries : List (Text × α)) (name : Text) : Option (Text × α) :=
  (entries.lookup name).map (name, ·)

theorem filterMap_entryIn {entries : List (Text × α)} (distinct : (entries.map Prod.fst).Nodup) :
    (entries.map Prod.fst).filterMap (entryIn entries) = entries := by
  induction entries with
  | nil => rfl
  | cons entry rest inductionHypothesis =>
      obtain ⟨key, first⟩ := entry
      rw [List.map_cons, List.nodup_cons] at distinct
      have unchanged : (rest.map Prod.fst).filterMap (entryIn ((key, first) :: rest)) =
          (rest.map Prod.fst).filterMap (entryIn rest) := by
        apply List.filterMap_congr
        intro name member
        have other : name ≠ key := fun same => distinct.1 (same ▸ member)
        simp [entryIn, lookup_cons_of_ne other]
      rw [List.map_cons, List.filterMap_cons, unchanged, inductionHypothesis distinct.2]
      simp [entryIn]

theorem ext_entries {first second : Keyed α} (same : first.entries = second.entries) :
    first = second := by
  cases first
  cases second
  simpa using same

/-- Maps with the same names in the same order and the same values are equal. -/
theorem ext_get? {first second : Keyed α} (names : first.names = second.names)
    (values : ∀ name ∈ first.names, first.get? name = second.get? name) : first = second := by
  apply ext_entries
  rw [← filterMap_entryIn first.distinct, ← filterMap_entryIn second.distinct]
  change first.names.filterMap _ = second.names.filterMap _
  rw [← names]
  apply List.filterMap_congr
  intro name member
  exact congrArg (Option.map (name, ·)) (values name member)

theorem ofList_concat (entries : List (Text × α)) (last : Text × α) :
    ofList (entries ++ [last]) = (ofList entries).put last.1 last.2 := by
  simp [ofList]

@[simp]
theorem names_ofList (entries : List (Text × α)) :
    (ofList entries).names = (entries.map Prod.fst).eraseDups := by
  induction entries using List.reverseRecOn with
  | nil => rfl
  | append_singleton entries last inductionHypothesis =>
      rw [ofList_concat, names_put, inductionHypothesis, List.map_append, List.map_singleton,
        eraseDups_concat]
      simp only [List.mem_eraseDups]

@[simp]
theorem get?_ofList (entries : List (Text × α)) (name : Text) :
    (ofList entries).get? name = entries.reverse.lookup name := by
  induction entries using List.reverseRecOn with
  | nil => rfl
  | append_singleton entries last inductionHypothesis =>
      obtain ⟨key, value⟩ := last
      rw [ofList_concat, get?_put, inductionHypothesis, List.reverse_append, List.reverse_singleton,
        List.singleton_append]
      by_cases asked : name = key
      · simp [asked]
      · rw [if_neg asked, lookup_cons_of_ne asked]

theorem entries_ofList_of_distinct {entries : List (Text × α)}
    (distinct : (entries.map Prod.fst).Nodup) : (ofList entries).entries = entries := by
  induction entries using List.reverseRecOn with
  | nil => rfl
  | append_singleton entries last inductionHypothesis =>
      rw [List.map_append, List.map_singleton, List.nodup_append] at distinct
      have new : last.1 ∉ entries.map Prod.fst := fun known =>
        distinct.2.2 last.1 known last.1 (List.mem_singleton_self _) rfl
      rw [ofList_concat]
      change putEntry last.1 last.2 (ofList entries).entries = _
      rw [inductionHypothesis distinct.1, putEntry_of_not_mem new]

/-- A map is made of its own entries. -/
@[simp]
theorem ofList_entries (map : Keyed α) : ofList map.entries = map :=
  ext_entries (entries_ofList_of_distinct map.distinct)

/-- One entry for each name: where the name first stands, with what stands under it last. -/
def lastGiven (entries : List (Text × α)) : List (Text × α) :=
  (entries.map Prod.fst).eraseDups.filterMap (entryIn entries.reverse)

theorem entries_ofList (entries : List (Text × α)) :
    (ofList entries).entries = lastGiven entries := by
  rw [← filterMap_entryIn (ofList entries).distinct]
  change (ofList entries).names.filterMap _ = _
  rw [names_ofList]
  apply List.filterMap_congr
  intro name _
  exact congrArg (Option.map (name, ·)) (get?_ofList entries name)

theorem mem_of_mem_entries_ofList {entry : Text × α} {entries : List (Text × α)}
    (member : entry ∈ (ofList entries).entries) : entry ∈ entries := by
  unfold ofList at member
  induction entries using List.reverseRec with
  | nil => cases member
  | append_singleton earlier last inductionHypothesis =>
      rw [List.foldl_append] at member
      rw [List.mem_append, List.mem_singleton]
      rcases mem_of_mem_putEntry member with same | before
      · exact .inr same
      · exact .inl (inductionHypothesis before)

/-- The map of the entries given last, told without putting one entry after the other. -/
def ofLastGiven (entries : List (Text × α)) : Keyed α where
  entries := lastGiven entries
  distinct := entries_ofList entries ▸ (ofList entries).distinct

theorem ofList_eq_ofLastGiven (entries : List (Text × α)) :
    ofList entries = ofLastGiven entries :=
  ext_entries (entries_ofList entries)

/-- The entries whose name passes a test, in order. -/
def filterNames (keep : Text → Bool) (map : Keyed α) : Keyed α where
  entries := map.entries.filter fun entry => keep entry.1
  distinct := map.distinct.sublist (List.filter_sublist.map Prod.fst)

theorem names_filterNames (keep : Text → Bool) (map : Keyed α) :
    (map.filterNames keep).names = map.names.filter keep := by
  simp only [names, filterNames, List.filter_map]
  rfl

theorem lookup_filter {keep : Text → Bool} {name : Text} (kept : keep name = true)
    (entries : List (Text × α)) :
    (entries.filter fun entry => keep entry.1).lookup name = entries.lookup name := by
  induction entries with
  | nil => rfl
  | cons entry rest inductionHypothesis =>
      obtain ⟨key, value⟩ := entry
      by_cases same : name = key
      · subst same
        simp [kept]
      · rw [lookup_cons_of_ne same, ← inductionHypothesis, List.filter_cons]
        split
        · exact lookup_cons_of_ne same value _
        · rfl

/-- Entries that are passed over leave no trace in a map, whether before or after it is made. -/
theorem filterNames_ofList (keep : Text → Bool) (entries : List (Text × α)) :
    (ofList entries).filterNames keep = ofList (entries.filter fun entry => keep entry.1) := by
  apply ext_get?
  · rw [names_filterNames, names_ofList, names_ofList, ← eraseDups_filter, List.filter_map]
    rfl
  · intro name member
    rw [names_filterNames, List.mem_filter] at member
    rw [get?_ofList, ← List.filter_reverse, lookup_filter member.2, ← get?_ofList]
    exact lookup_filter member.2 (ofList entries).entries

/-- The map with every value changed. -/
def mapValues {β : Type} (change : α → β) (map : Keyed α) : Keyed β where
  entries := map.entries.map fun entry => (entry.1, change entry.2)
  distinct := by simpa [Function.comp_def] using map.distinct

theorem mapValues_put {β : Type} (change : α → β) (map : Keyed α) (name : Text) (value : α) :
    (map.put name value).mapValues change = (map.mapValues change).put name (change value) := by
  simp only [mapValues, put, mk.injEq]
  induction map.entries with
  | nil => rfl
  | cons entry rest inductionHypothesis =>
      by_cases same : entry.1 = name
      · simp [putEntry, same]
      · simpa [putEntry, same] using inductionHypothesis

theorem mapValues_ofList {β : Type} (change : α → β) (entries : List (Text × α)) :
    (ofList entries).mapValues change =
      ofList (entries.map fun entry => (entry.1, change entry.2)) := by
  induction entries using List.reverseRecOn with
  | nil => rfl
  | append_singleton entries last inductionHypothesis =>
      rw [ofList_concat, mapValues_put, inductionHypothesis, List.map_append, List.map_singleton,
        ofList_concat]

end Keyed

end Flowchart
