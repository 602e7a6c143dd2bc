import Flowchart.Compile.Schema
import Flowchart.Proofs.Keyed

/-!
The schema of a flow, followed through the declarations one after the other. One more declaration
puts its type under its name and makes the name required if it is flagged; the name keeps the place
that it has. So of a name declared twice the last type counts, while a single flag is enough.
-/

namespace Flowchart

section

variable (properties : List InputProperty) (last : InputProperty)

theorem schemaProperties_concat :
    schemaProperties (properties ++ [last]) =
      (schemaProperties properties).put last.name ⟨last.type.name, ""⟩ := by
  rw [schemaProperties, List.map_append, List.map_singleton, Keyed.ofList_concat]
  rfl

theorem requiredNames_concat :
    requiredNames (properties ++ [last]) =
      if last.required = true ∧ last.name ∉ requiredNames properties then
        requiredNames properties ++ [last.name]
      else requiredNames properties := by
  unfold requiredNames
  cases flagged : last.required with
  | false => simp [flagged]
  | true =>
      rw [List.filter_append, List.filter_cons_of_pos flagged, List.filter_nil, List.map_append,
        List.map_singleton, eraseDups_concat]
      simp only [List.mem_eraseDups, true_and, ite_not]

theorem filter_required_concat :
    ((properties ++ [last]).filter InputProperty.required).map InputProperty.name =
      (properties.filter InputProperty.required).map InputProperty.name ++
        if last.required = true then [last.name] else [] := by
  cases flagged : last.required <;> simp [flagged]

end

/-- The names of a schema are the declared ones, in the order of their first declarations. -/
theorem listsFirsts_schemaProperties (properties : List InputProperty) :
    ListsFirsts (schemaProperties properties).names (properties.map InputProperty.name) := by
  induction properties using List.reverseRecOn with
  | nil => exact ListsFirsts.nil
  | append_singleton properties last inductionHypothesis =>
      rw [schemaProperties_concat, Keyed.names_put, List.map_append, List.map_singleton]
      split
      · next known =>
        exact inductionHypothesis.concat_known ((inductionHypothesis.mem_iff _).mp known)
      · next new =>
        exact inductionHypothesis.concat_new (mt (inductionHypothesis.mem_iff _).mpr new)

/-- The required names are the flagged ones, in the order of their first flags. -/
theorem listsFirsts_requiredNames (properties : List InputProperty) :
    ListsFirsts (requiredNames properties)
      ((properties.filter InputProperty.required).map InputProperty.name) := by
  induction properties using List.reverseRecOn with
  | nil => exact ListsFirsts.nil
  | append_singleton properties last inductionHypothesis =>
      rw [requiredNames_concat, filter_required_concat]
      cases flagged : last.required with
      | false => simpa using inductionHypothesis
      | true =>
          by_cases known : last.name ∈ requiredNames properties
          · simp only [known, not_true_eq_false, and_false, if_false, if_true]
            exact inductionHypothesis.concat_known ((inductionHypothesis.mem_iff _).mp known)
          · simp only [known, not_false_eq_true, and_self, if_true]
            exact inductionHypothesis.concat_new (mt (inductionHypothesis.mem_iff _).mpr known)

/-- A declaration counts if none of its name comes after it. -/
theorem get?_schemaProperties_of_last (before after : List InputProperty) {last : InputProperty}
    (isLast : last.name ∉ after.map InputProperty.name) :
    (schemaProperties (before ++ last :: after)).get? last.name = some ⟨last.type.name, ""⟩ := by
  induction after using List.reverseRecOn with
  | nil => rw [schemaProperties_concat, Keyed.get?_put, if_pos rfl]
  | append_singleton after later inductionHypothesis =>
      rw [List.map_append, List.map_singleton, List.mem_append, List.mem_singleton,
        not_or] at isLast
      rw [← List.cons_append, ← List.append_assoc, schemaProperties_concat, Keyed.get?_put,
        if_neg isLast.2]
      exact inductionHypothesis isLast.1

/-- Whatever stands in a schema was declared. -/
theorem exists_property_of_get?_schemaProperties {properties : List InputProperty} {name : Text}
    {entry : SchemaProperty} (stands : (schemaProperties properties).get? name = some entry) :
    ∃ property ∈ properties, property.name = name ∧ entry = ⟨property.type.name, ""⟩ := by
  induction properties using List.reverseRecOn with
  | nil => cases stands
  | append_singleton properties last inductionHypothesis =>
      rw [schemaProperties_concat, Keyed.get?_put] at stands
      split at stands
      · next same =>
        exact ⟨last, by simp, same.symm, (Option.some.inj stands).symm⟩
      · obtain ⟨property, declared, named, written⟩ := inductionHypothesis stands
        exact ⟨property, List.mem_append_left _ declared, named, written⟩

theorem requiredNames_subset (properties : List InputProperty) :
    requiredNames properties ⊆ (schemaProperties properties).names := by
  intro name required
  obtain ⟨property, flagged, rfl⟩ :=
    List.mem_map.mp (((listsFirsts_requiredNames properties).mem_iff name).mp required)
  apply ((listsFirsts_schemaProperties properties).mem_iff property.name).mpr
  exact List.mem_map_of_mem (List.mem_filter.mp flagged).1

theorem PropertyType.name_cases (type : PropertyType) :
    type.name = "string" ∨ type.name = "number" := by
  cases type
  · exact .inl rfl
  · exact .inr rfl

theorem entry_of_get?_schemaProperties {properties : List InputProperty} {name : Text}
    {entry : SchemaProperty} (stands : (schemaProperties properties).get? name = some entry) :
    (entry.type = "string" ∨ entry.type = "number") ∧ entry.description = "" := by
  obtain ⟨property, -, -, rfl⟩ := exists_property_of_get?_schemaProperties stands
  exact ⟨property.type.name_cases, rfl⟩

section

variable {properties : List InputProperty} (distinct : (properties.map InputProperty.name).Nodup)
include distinct

theorem entries_schemaProperties_of_distinct :
    (schemaProperties properties).entries =
      properties.map fun property => (property.name, ⟨property.type.name, ""⟩) := by
  apply Keyed.entries_ofList_of_distinct
  simpa [Function.comp_def] using distinct

theorem requiredNames_of_distinct :
    requiredNames properties =
      (properties.filter InputProperty.required).map InputProperty.name := by
  apply eraseDups_of_nodup
  exact distinct.sublist (List.filter_sublist.map InputProperty.name)

end

namespace InputSchema

variable {options : Options} (properties : List InputProperty)

theorem required_derive_of_honored (honored : options.honorRequired = true) :
    (derive options properties).required = requiredNames properties :=
  if_pos honored

theorem required_derive_of_ignored (ignored : options.honorRequired = false) :
    (derive options properties).required = [] := by
  simp [derive, ignored]

theorem required_derive_subset :
    (derive options properties).required ⊆ (derive options properties).properties.names := by
  cases honors : options.honorRequired with
  | false =>
      rw [required_derive_of_ignored properties honors]
      exact List.nil_subset _
  | true =>
      rw [required_derive_of_honored properties honors]
      exact requiredNames_subset properties

/-- A schema tells each declared name once, in the order of the first declarations and with the type
of the last, and requires the names with a flag in the order of the first flags, or none of them.
Where no name comes twice, it is the declarations as they stand. -/
theorem derive_of_declarations (options : Options) (properties : List InputProperty) :
    let schema := derive options properties
    let names := properties.map InputProperty.name
    let flagged := (properties.filter InputProperty.required).map InputProperty.name
    ListsFirsts schema.properties.names names ∧
    (∀ before last after, properties = before ++ last :: after →
      last.name ∉ after.map InputProperty.name →
        schema.properties.get? last.name = some ⟨last.type.name, ""⟩) ∧
    (∀ name entry, schema.properties.get? name = some entry →
      (entry.type = "string" ∨ entry.type = "number") ∧ entry.description = "") ∧
    (options.honorRequired = true → ListsFirsts schema.required flagged) ∧
    schema.required ⊆ schema.properties.names ∧
    (options.honorRequired = false → schema.required = []) ∧
    (names.Nodup →
      schema.properties.entries =
        properties.map (fun property => (property.name, ⟨property.type.name, ""⟩)) ∧
      (options.honorRequired = true → schema.required = flagged)) := by
  intro schema names flagged
  refine ⟨listsFirsts_schemaProperties properties, ?_, ?_, ?_, required_derive_subset properties,
    required_derive_of_ignored properties, ?_⟩
  · rintro before last after rfl isLast
    exact get?_schemaProperties_of_last before after isLast
  · intro name entry stands
    exact entry_of_get?_schemaProperties stands
  · intro honored
    simp only [schema, required_derive_of_honored properties honored]
    exact listsFirsts_requiredNames properties
  · intro distinct
    refine ⟨entries_schemaProperties_of_distinct distinct, ?_⟩
    intro honored
    simp only [schema, required_derive_of_honored properties honored]
    exact requiredNames_of_distinct distinct

-- A name that is declared twice stands first and is required last, with its last type.
example :
    let schema := derive .default
      [⟨"", "a", .string, false⟩, ⟨"", "b", .number, true⟩, ⟨"", "a", .number, true⟩]
    schema.properties.entries = ([("a", ⟨"number", ""⟩), ("b", ⟨"number", ""⟩)] : List (Text × _)) ∧
      schema.required = ["b", "a"] := by decide +kernel

end InputSchema

end Flowchart
