import Flowchart.Compile.Schema
import Flowchart.Document.Basic
import Flowchart.Graph.Normalize
import Flowchart.Proofs.Keyed
import Flowchart.Proofs.Trimming

/-!
Pruning a document: all that stands under a blank name or label is left out, at every depth, and
the rest keeps its place. What is made of a list of rows is pruned by dropping the blank rows first.
-/

namespace Flowchart

def hasText (text : Text) : Bool :=
  strip text ≠ ""

theorem hasText_eq (text : Text) : hasText text = !isBlankText text := by
  cases blank : isBlankText text <;> simp [hasText, strip_eq_empty_iff, blank]

mutual

/-- A module without its blank parameters and without its branches under a blank label. -/
def Module.prune : Module → Module
  | .script id summary path transforms =>
      .script id summary path (transforms.filterNames hasText)
  | .branchOne id summary default branches =>
      .branchOne id summary (pruneModules default) (pruneBranches branches)

def pruneModules : List Module → List Module
  | [] => []
  | first :: rest => first.prune :: pruneModules rest

def pruneBranches : List Branch → List Branch
  | [] => []
  | .mk summary expression modules :: rest =>
      if hasText summary then
        .mk summary expression (pruneModules modules) :: pruneBranches rest
      else pruneBranches rest

end

def InputSchema.prune (schema : InputSchema) : InputSchema where
  dialect := schema.dialect
  properties := schema.properties.filterNames hasText
  required := schema.required.filter hasText

def Document.prune (document : Document) : Document where
  summary := document.summary
  description := document.description
  modules := pruneModules document.modules
  schema := document.schema.prune

theorem map_filter_hasText {α β : Type} {name : α → Text} {value : α → β} (rows : List α) :
    (rows.filter fun row => !isBlankText (name row)).map (fun row => (name row, value row)) =
      (rows.map fun row => (name row, value row)).filter fun entry => hasText entry.1 := by
  rw [List.filter_map]
  simp only [Function.comp_def, hasText_eq]

theorem schemaProperties_filter (properties : List InputProperty) :
    schemaProperties (properties.filter fun property => !isBlankText property.name) =
      (schemaProperties properties).filterNames hasText := by
  rw [schemaProperties, map_filter_hasText, ← Keyed.filterNames_ofList]
  rfl

theorem requiredNames_filter (properties : List InputProperty) :
    requiredNames (properties.filter fun property => !isBlankText property.name) =
      (requiredNames properties).filter hasText := by
  rw [requiredNames, requiredNames, ← eraseDups_filter, List.filter_map, List.filter_comm]
  simp only [Function.comp_def, hasText_eq]

/-- Blank properties leave a schema as they leave the node that declares them. -/
theorem InputSchema.derive_filter (options : Options) (properties : List InputProperty) :
    derive options (properties.filter fun property => !isBlankText property.name) =
      (derive options properties).prune := by
  unfold derive prune
  rw [schemaProperties_filter, requiredNames_filter]
  cases options.honorRequired <;> rfl

/-- Blank bindings leave the parameters of a script as they leave its action. -/
theorem transforms_filter (bindings : List Binding) :
    Keyed.ofLastGiven ((bindings.filter fun binding => !isBlankText binding.parameter).map
        fun binding => (binding.parameter, binding.expression)) =
      (Keyed.ofLastGiven (bindings.map fun binding =>
        (binding.parameter, binding.expression))).filterNames hasText := by
  rw [map_filter_hasText, ← Keyed.ofList_eq_ofLastGiven, ← Keyed.ofList_eq_ofLastGiven,
    Keyed.filterNames_ofList]

/-- Blank rows leave the branches of a condition as they leave the condition, provided that the
branches of the other rows are pruned. -/
theorem branches_filter {rows : List BranchRow} (first second : BranchRow → Option (List Module))
    (pruned : ∀ row ∈ rows, isBlankText row.label = false →
      second row = (first row).map pruneModules) :
    ((rows.filter fun row => !isBlankText row.label).filterMap fun row =>
        (second row).map (Branch.mk row.label row.expression)) =
      pruneBranches (rows.filterMap fun row =>
        (first row).map (Branch.mk row.label row.expression)) := by
  induction rows with
  | nil => rfl
  | cons row rest inductionHypothesis =>
      have later := inductionHypothesis fun other member =>
        pruned other (List.mem_cons_of_mem row member)
      cases blank : isBlankText row.label with
      | true =>
          rw [List.filter_cons_of_neg (by simp [blank]), later]
          cases made : first row <;> simp [made, pruneBranches, hasText_eq, blank]
      | false =>
          have here := pruned row List.mem_cons_self blank
          rw [List.filter_cons_of_pos (by simp [blank]), List.filterMap_cons, later]
          cases made : first row <;> simp [made, here, pruneBranches, hasText_eq, blank]

end Flowchart
