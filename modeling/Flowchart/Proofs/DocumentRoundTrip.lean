import Flowchart.Document.Dump
import Flowchart.Document.Reading
import Flowchart.Proofs.Acceptance
import Flowchart.Proofs.JsonText

/-!
A document that is written is read back as it was, from its JSON value and from its text. What is
left out of a written document, because there is nothing to write, is what the reader takes for
granted.
-/

namespace Flowchart

open Reading

/-! ## What is read of an object -/

theorem Module.read_obj (members : List (Text × Json)) :
    Module.read (.obj members) =
      (fun id summary make => make id summary) <$> field members "id" text
        <*> fieldOr members "summary" none (nullable text)
        <*> field members "value" readModuleValue := by
  rw [Module.read]
  congr 1
  unfold field
  split <;> simp_all

theorem readModuleItems_eq_items (place : Nat) (values : List Json) :
    readModuleItems place values = items Module.read place values := by
  induction values generalizing place with
  | nil => rw [readModuleItems, items]
  | cons value rest inductionHypothesis => rw [readModuleItems, items, inductionHypothesis]

theorem readModules_eq_array (value : Json) :
    readModules value = array .notList Module.read value := by
  cases value with
  | arr values => rw [readModules, array, readModuleItems_eq_items]
  | _ => rw [readModules, array] <;> simp

theorem Branch.read_obj (members : List (Text × Json)) :
    Branch.read (.obj members) =
      Branch.mk <$> fieldOr members "summary" "" text <*> fieldOr members "expr" "" text
        <*> fieldOr members "modules" [] (array .notList Module.read) := by
  rw [Branch.read]
  congr 1
  unfold fieldOr
  split <;> simp_all [readModules_eq_array]

theorem readBranchItems_eq_items (place : Nat) (values : List Json) :
    readBranchItems place values = items Branch.read place values := by
  induction values generalizing place with
  | nil => rw [readBranchItems, items]
  | cons value rest inductionHypothesis => rw [readBranchItems, items, inductionHypothesis]

theorem readBranches_eq_array (value : Json) :
    readBranches value = array .notList Branch.read value := by
  cases value with
  | arr values => rw [readBranches, array, readBranchItems_eq_items]
  | _ => rw [readBranches, array] <;> simp

theorem readModuleValue_script {members : List (Text × Json)}
    (tagged : Json.member? members "type" = some (.str "script")) :
    readModuleValue (.obj members) = (readScript members).under (.variant "script") := by
  rw [readModuleValue, tagged]
  rfl

theorem readModuleValue_branchOne {members : List (Text × Json)}
    (tagged : Json.member? members "type" = some (.str "branchone")) :
    readModuleValue (.obj members) =
      ((fun default branches id summary => Module.branchOne id summary default branches) <$>
        fieldOr members "default" [] (array .notList Module.read) <*>
        fieldOr members "branches" [] (array .notList Branch.read)).under
          (.variant "branchone") := by
  rw [readModuleValue, tagged]
  change under _ (_ <$> _ <*> _) = _
  congr 2
  · congr 1
    unfold fieldOr
    split <;> simp_all [readModules_eq_array]
  · funext
    unfold fieldOr
    split <;> simp_all [readBranches_eq_array]

/-! ## Members that may be left out -/

section

variable {first name last : Text} (keepNull : Bool) (content : Option Text) (head value : Json)

theorem value?_membersAround (notFirst : name ≠ first) (notLast : name ≠ last) :
    (fieldOr (membersAround keepNull (first, head) name content (last, value)) name none
      (nullable text)).value? = some content := by
  cases content <;> cases keepNull <;>
    simp [membersAround, memberOfText?, Json.member?, lookup_cons_of_ne, notFirst, notLast,
      nullable]

@[simp]
theorem member?_first_membersAround :
    Json.member? (membersAround keepNull (first, head) name content (last, value)) first =
      some head := by
  simp [membersAround, Json.member?]

theorem member?_last_membersAround (notFirst : last ≠ first) (notName : last ≠ name) :
    Json.member? (membersAround keepNull (first, head) name content (last, value)) last =
      some value := by
  cases content <;> cases keepNull <;>
    simp [membersAround, memberOfText?, Json.member?, lookup_cons_of_ne, notFirst, notName]

end

/-! ## Written lists -/

theorem modulesToJson_eq_map (keepNull : Bool) (modules : List Module) :
    modulesToJson keepNull modules = modules.map (Module.toJson keepNull) := by
  induction modules with
  | nil => rfl
  | cons first rest inductionHypothesis => rw [modulesToJson, inductionHypothesis, List.map_cons]

theorem branchesToJson_eq_map (keepNull : Bool) (branches : List Branch) :
    branchesToJson keepNull branches = branches.map (Branch.toJson keepNull) := by
  induction branches with
  | nil => rfl
  | cons first rest inductionHypothesis => rw [branchesToJson, inductionHypothesis, List.map_cons]

/-! ## What is read of something written -/

theorem value?_readTransform (expression : Text) :
    (readTransform (transformToJson expression)).value? = some expression := by
  simp [readTransform, transformToJson, Json.members?, Json.member?, List.lookup_cons, oneOf]

theorem value?_readScript (keepNull : Bool) (path : Option Text) (transforms : Keyed Text) :
    (readScript (membersAround keepNull ("type", .str "script") "path" path
      ("input_transforms", .obj (transforms.entries.map fun entry =>
        (entry.1, transformToJson entry.2))))).value? =
      some fun id summary => Module.script id summary path transforms := by
  have pathRead := @value?_membersAround "type" "path" "input_transforms" keepNull path
    (.str "script") (.obj (transforms.entries.map fun entry => (entry.1, transformToJson entry.2)))
    (by decide) (by decide)
  have written := @member?_last_membersAround "type" "path" "input_transforms" keepNull path
    (.str "script") (.obj (transforms.entries.map fun entry => (entry.1, transformToJson entry.2)))
    (by decide) (by decide)
  rw [readScript, value?_seq, value?_map, pathRead, value?_fieldOr, written, Option.elim_some,
    value?_keyed_map value?_readTransform]
  rfl

/-- A module is read from its id, its summary and its value. -/
theorem Module.value?_read_of_value {keepNull : Bool} {id : Text} {summary : Option Text}
    {value : Json} {make : ModuleValue} (valueRead : (readModuleValue value).value? = some make) :
    (Module.read (.obj (membersAround keepNull ("id", .str id) "summary" summary
      ("value", value)))).value? = some (make id summary) := by
  have summaryRead := @value?_membersAround "id" "summary" "value" keepNull summary (.str id) value
    (by decide) (by decide)
  have written := @member?_last_membersAround "id" "summary" "value" keepNull summary (.str id)
    value (by decide) (by decide)
  rw [Module.read_obj, value?_seq, value?_seq, value?_map, value?_field,
    member?_first_membersAround, summaryRead, value?_field, written, Option.bind_some,
    Option.bind_some, value?_text, valueRead]
  rfl

mutual

theorem Module.value?_read_toJson (keepNull : Bool) (module : Module) :
    (Module.read (module.toJson keepNull)).value? = some module := by
  cases module with
  | script id summary path transforms =>
      rw [Module.toJson]
      apply Module.value?_read_of_value
      rw [readModuleValue_script (member?_first_membersAround ..), value?_under]
      exact value?_readScript keepNull path transforms
  | branchOne id summary default branches =>
      have defaultRead := mapM_modulesToJson keepNull default
      have branchesRead := mapM_branchesToJson keepNull branches
      rw [Module.toJson]
      apply Module.value?_read_of_value
      rw [readModuleValue_branchOne rfl, value?_under]
      simp [Json.member?, List.lookup_cons, Json.items?, defaultRead, branchesRead]

theorem mapM_modulesToJson (keepNull : Bool) (modules : List Module) :
    (modulesToJson keepNull modules).mapM (fun value => (Module.read value).value?) =
      some modules := by
  cases modules with
  | nil => rfl
  | cons first rest =>
      have firstRead := Module.value?_read_toJson keepNull first
      have restRead := mapM_modulesToJson keepNull rest
      simp [modulesToJson, firstRead, restRead]

theorem Branch.value?_read_toJson (keepNull : Bool) (branch : Branch) :
    (Branch.read (branch.toJson keepNull)).value? = some branch := by
  cases branch with
  | mk summary expression modules =>
      have modulesRead := mapM_modulesToJson keepNull modules
      rw [Branch.toJson, Branch.read_obj]
      simp [Json.member?, List.lookup_cons, Json.items?, modulesRead]

theorem mapM_branchesToJson (keepNull : Bool) (branches : List Branch) :
    (branchesToJson keepNull branches).mapM (fun value => (Branch.read value).value?) =
      some branches := by
  cases branches with
  | nil => rfl
  | cons first rest =>
      have firstRead := Branch.value?_read_toJson keepNull first
      have restRead := mapM_branchesToJson keepNull rest
      simp [branchesToJson, firstRead, restRead]

end

theorem SchemaProperty.value?_read_toJson (property : SchemaProperty) :
    (SchemaProperty.read property.toJson).value? = some property := by
  simp [SchemaProperty.read, SchemaProperty.toJson, Json.members?, Json.member?, List.lookup_cons]

theorem InputSchema.value?_read_toJson (schema : InputSchema) :
    (InputSchema.read schema.toJson).value? = some schema := by
  have properties := value?_keyed_map SchemaProperty.value?_read_toJson schema.properties
  have required := value?_array_map value?_text .notList schema.required
  simp [-value?_array, -value?_keyed, InputSchema.read, InputSchema.toJson, Json.ofTexts,
    Json.members?, Json.member?, List.lookup_cons, spelling, oneOf, properties, required]

theorem Document.value?_read_toJson (document : Document) :
    (Document.read document.toJson).value? = some document := by
  have modules := mapM_modulesToJson false document.modules
  simp [Document.read, Document.readTree, Document.toJson, Json.members?, Json.member?,
    List.lookup_cons, spelling, readModules_eq_array, Json.items?, modules,
    InputSchema.value?_read_toJson]

theorem Document.load_toJson (document : Document) :
    Document.load document.toJson = .ok document := by
  rw [load, value?_eq_some_iff.mp document.value?_read_toJson]
  rfl

/-! ## Documents are made of texts -/

namespace Json

theorem Textual.keyed {α : Type} {write : α → Json} (each : ∀ value, Textual (write value))
    (map : Keyed α) : Textual (.obj (map.entries.map fun entry => (entry.1, write entry.2))) := by
  apply Textual.obj
  · simpa [Function.comp_def] using map.distinct
  · intro member membership
    obtain ⟨entry, -, rfl⟩ := List.mem_map.mp membership
    exact each entry.2

theorem Textual.texts (texts : List Text) : Textual (ofTexts texts) := by
  apply Textual.arr
  intro item membership
  obtain ⟨text, -, rfl⟩ := List.mem_map.mp membership
  exact .str text

theorem Textual.withOptional {first name last : Text} {content : Option Text}
    {head value : Json} (headTextual : Textual head) (valueTextual : Textual value)
    (apart : [first, name, last].Nodup) :
    Textual (.obj (membersAround false (first, head) name content (last, value))) := by
  simp only [List.nodup_cons, List.mem_cons, not_or] at apart
  cases content with
  | none =>
      apply Textual.obj
      · simp [membersAround, memberOfText?, apart]
      · simp [membersAround, memberOfText?, headTextual, valueTextual]
  | some text =>
      apply Textual.obj
      · simp [membersAround, memberOfText?, apart]
      · simp [membersAround, memberOfText?, headTextual, valueTextual, Textual.str]

end Json

open Json

theorem textual_transformToJson (expression : Text) : (transformToJson expression).Textual :=
  .obj (by simp) (by simp [Textual.str])

mutual

theorem Module.textual_toJson (module : Module) : (module.toJson false).Textual := by
  cases module with
  | script id summary path transforms =>
      rw [Module.toJson]
      apply Textual.withOptional (.str id) _ (by decide)
      exact Textual.withOptional (.str "script") (.keyed textual_transformToJson transforms)
        (by decide)
  | branchOne id summary default branches =>
      have defaultTextual := textual_modulesToJson default
      have branchesTextual := textual_branchesToJson branches
      rw [Module.toJson]
      apply Textual.withOptional (.str id) _ (by decide)
      apply Textual.obj (by simp)
      simp [Textual.str, Textual.arr defaultTextual, Textual.arr branchesTextual]

theorem textual_modulesToJson (modules : List Module) :
    ∀ item ∈ modulesToJson false modules, item.Textual := by
  cases modules with
  | nil => simp [modulesToJson]
  | cons first rest =>
      rw [modulesToJson, List.forall_mem_cons]
      exact ⟨first.textual_toJson, textual_modulesToJson rest⟩

theorem Branch.textual_toJson (branch : Branch) : (branch.toJson false).Textual := by
  cases branch with
  | mk summary expression modules =>
      have modulesTextual := textual_modulesToJson modules
      rw [Branch.toJson]
      apply Textual.obj (by simp)
      simp [Textual.str, Textual.arr modulesTextual]

theorem textual_branchesToJson (branches : List Branch) :
    ∀ item ∈ branchesToJson false branches, item.Textual := by
  cases branches with
  | nil => simp [branchesToJson]
  | cons first rest =>
      rw [branchesToJson, List.forall_mem_cons]
      exact ⟨first.textual_toJson, textual_branchesToJson rest⟩

end

theorem SchemaProperty.textual_toJson (property : SchemaProperty) : property.toJson.Textual := by
  apply Textual.obj (by simp)
  simp [Textual.str]

theorem InputSchema.textual_toJson (schema : InputSchema) : schema.toJson.Textual := by
  have properties := Textual.keyed SchemaProperty.textual_toJson schema.properties
  apply Textual.obj (by simp)
  simp [Textual.str, properties, Textual.texts]

namespace Document

theorem textual_toJson (document : Document) : document.toJson.Textual := by
  have value : Textual (.obj [("modules", .arr (modulesToJson false document.modules))]) :=
    .obj (by simp) (by simp [Textual.arr (textual_modulesToJson document.modules)])
  apply Textual.obj (by simp)
  simp [Textual.str, value, document.schema.textual_toJson]

theorem read_render {document : Document} (unicode : document.toJson.isUnicode = true)
    (indent : Option Int) : Json.read (document.render indent) = .ok document.toJson :=
  Json.read_render document.textual_toJson unicode indent

/-- A written value tells the document. -/
theorem eq_of_toJson_eq {document other : Document} (same : document.toJson = other.toJson) :
    document = other := by
  have loaded := document.load_toJson
  rw [same, other.load_toJson] at loaded
  exact (Except.ok.inj loaded).symm

/-- The text of a document tells it, whatever the indents. -/
theorem eq_of_render_eq {document other : Document} (unicode : document.toJson.isUnicode = true)
    (otherUnicode : other.toJson.isUnicode = true) {first second : Option Int}
    (same : document.render first = other.render second) : document = other := by
  have read := read_render unicode first
  rw [same, read_render otherUnicode second] at read
  exact eq_of_toJson_eq (Except.ok.inj read).symm

theorem isAscii_render (document : Document) (indent : Option Int) :
    IsAscii (document.render indent).codes :=
  document.textual_toJson.isAscii_write _ 0

/-- A document with a quote, a line break and a character beyond U+FFFF in its texts, and a module
in a branch. -/
def quoted : Document where
  summary := "says \"go\"\n"
  description := "\\ é 😀"
  modules :=
    [.branchOne "c" none [] [.mk "Large" "x > 1" [.script "a" (some "Send") none Keyed.empty]]]
  schema := ⟨defaultDialect, Keyed.ofList [("x", ⟨"number", ""⟩)], ["x"]⟩

/-- The same document without its summary. -/
def unsummarised : Document := { quoted with summary := "" }

end Document

end Flowchart
