import Flowchart.Document.Basic
import Flowchart.Reading.Scalar
import Flowchart.Refusal

/-!
Reading documents from JSON.
-/

namespace Flowchart

open Reading

/-- The expression of a parameter. -/
def readTransform : Json → Reading Text :=
  object (.notModel "InputTransform") fun members =>
    (fun _ expression => expression) <$>
        fieldOr members "type" () (oneOf [("javascript", ())])
      <*> fieldOr members "expr" "" text

/-- The types that the value of a module names itself by. -/
inductive ModuleType where
  | script
  | branchOne
  deriving DecidableEq, Repr

namespace ModuleType

def all : List ModuleType := [.script, .branchOne]

def name : ModuleType → Text
  | script => "script"
  | branchOne => "branchone"

def ofTag? : Json → Option ModuleType
  | .str text => all.find? (·.name = text)
  | _ => none

end ModuleType

/-- What a module does, as its value tells: given its id and summary, a module. -/
abbrev ModuleValue := Text → Option Text → Module

/-- The value of a script module. -/
def readScript (members : List (Text × Json)) : Reading ModuleValue :=
  (fun path transforms id summary => Module.script id summary path transforms) <$>
      fieldOr members "path" none (nullable text)
    <*> fieldOr members "input_transforms" Keyed.empty (keyed readTransform)

section

set_option linter.unusedVariables false

mutual

def Module.read (value : Json) : Reading Module :=
  match value with
  | .obj members =>
      let value :=
        match found : Json.member? members "value" with
        | some value => (readModuleValue value).under (.name "value")
        | none => (fault .missing).under (.name "value")
      (fun id summary make => make id summary) <$> field members "id" text
        <*> fieldOr members "summary" none (nullable text)
        <*> value
  | _ => fault (.notModel "FlowModule")
termination_by sizeOf value
decreasing_by
  have smaller := Json.sizeOf_member_lt found
  simp only [Json.obj.sizeOf_spec]
  omega

/-- The value of a module is of the kind that its type names. -/
def readModuleValue (value : Json) : Reading ModuleValue :=
  match value with
  | .obj members =>
      match Json.member? members "type" with
      | none => fault .noTag
      | some tag =>
        match ModuleType.ofTag? tag with
        | none => fault (.unknownTag tag.cited (ModuleType.all.map ModuleType.name))
        | some .script => (readScript members).under (.variant ModuleType.script.name)
        | some .branchOne =>
          let default :=
            match found : Json.member? members "default" with
            | some modules => (readModules modules).under (.name "default")
            | none => accepted []
          let branches :=
            match found : Json.member? members "branches" with
            | some branches => (readBranches branches).under (.name "branches")
            | none => accepted []
          ((fun default branches id summary => Module.branchOne id summary default branches) <$>
            default <*> branches).under (.variant ModuleType.branchOne.name)
  | _ => fault .notMembers
termination_by sizeOf value
decreasing_by all_goals
  have smaller := Json.sizeOf_member_lt found
  simp only [Json.obj.sizeOf_spec]
  omega

def readModules (value : Json) : Reading (List Module) :=
  match value with
  | .arr items => readModuleItems 0 items
  | _ => fault .notList
termination_by sizeOf value

def readModuleItems (place : Nat) (items : List Json) : Reading (List Module) :=
  match items with
  | [] => accepted []
  | item :: rest =>
      List.cons <$> (Module.read item).under (.index place) <*> readModuleItems (place + 1) rest
termination_by sizeOf items

def Branch.read (value : Json) : Reading Branch :=
  match value with
  | .obj members =>
      let modules :=
        match found : Json.member? members "modules" with
        | some modules => (readModules modules).under (.name "modules")
        | none => accepted []
      Branch.mk <$> fieldOr members "summary" "" text <*> fieldOr members "expr" "" text <*> modules
  | _ => fault (.notModel "Branch")
termination_by sizeOf value
decreasing_by
  have smaller := Json.sizeOf_member_lt found
  simp only [Json.obj.sizeOf_spec]
  omega

def readBranches (value : Json) : Reading (List Branch) :=
  match value with
  | .arr items => readBranchItems 0 items
  | _ => fault .notList
termination_by sizeOf value

def readBranchItems (place : Nat) (items : List Json) : Reading (List Branch) :=
  match items with
  | [] => accepted []
  | item :: rest =>
      List.cons <$> (Branch.read item).under (.index place) <*> readBranchItems (place + 1) rest
termination_by sizeOf items

end

end

def Module.load (value : Json) : Except Refusal Module :=
  (Module.read value).toExcept.mapError (.invalid "FlowModule")

def SchemaProperty.read : Json → Reading SchemaProperty :=
  object (.notModel "SchemaProperty") fun members =>
    SchemaProperty.mk <$> field members "type" text <*> fieldOr members "description" "" text

namespace InputSchema

/-- A schema that asks for nothing. -/
def empty : InputSchema := ⟨defaultDialect, Keyed.empty, []⟩

def read : Json → Reading InputSchema :=
  object (.notModel "InputSchema") fun members =>
    (fun dialect _ properties required => InputSchema.mk dialect properties required) <$>
        fieldOr members (spelling members "$schema" "schema_uri") defaultDialect text
      <*> fieldOr members "type" () (oneOf [("object", ())])
      <*> fieldOr members "properties" Keyed.empty (keyed SchemaProperty.read)
      <*> fieldOr members "required" [] (array .notList text)

end InputSchema

namespace Document

/-- The module tree of a document. -/
def readTree : Json → Reading (List Module) :=
  object (.notModel "FlowValue") fun members => fieldOr members "modules" [] readModules

def read : Json → Reading Document :=
  object (.notModel "FlowDocument") fun members =>
    Document.mk <$> fieldOr members "summary" "" text
      <*> fieldOr members "description" "" text
      <*> fieldOr members "value" [] readTree
      <*> fieldOr members (spelling members "schema" "input_schema") InputSchema.empty
        InputSchema.read

def load (value : Json) : Except Refusal Document :=
  (read value).toExcept.mapError (.invalid "FlowDocument")

end Document

end Flowchart
