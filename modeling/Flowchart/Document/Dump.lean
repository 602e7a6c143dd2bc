import Flowchart.Document.Basic
import Flowchart.Json.Printer

/-!
Documents as JSON values and as text. Nulls are left out of a document; a module on its own may be
shown with them.
-/

namespace Flowchart

/-- A member that is left out when there is nothing to write, unless nulls are kept. -/
def memberOfText? (keepNull : Bool) (name : Text) : Option Text → List (Text × Json)
  | some text => [(name, .str text)]
  | none => if keepNull then [(name, .null)] else []

/-- Members among which a text between two others may be left out. -/
def membersAround (keepNull : Bool) (first : Text × Json) (name : Text) (content : Option Text)
    (last : Text × Json) : List (Text × Json) :=
  first :: memberOfText? keepNull name content ++ [last]

def transformToJson (expression : Text) : Json :=
  .obj [("type", .str "javascript"), ("expr", .str expression)]

mutual

def Module.toJson (keepNull : Bool) : Module → Json
  | .script id summary path transforms =>
      .obj (membersAround keepNull ("id", .str id) "summary" summary
        ("value", .obj (membersAround keepNull ("type", .str "script") "path" path
          ("input_transforms", .obj (transforms.entries.map fun entry =>
            (entry.1, transformToJson entry.2))))))
  | .branchOne id summary default branches =>
      .obj (membersAround keepNull ("id", .str id) "summary" summary
        ("value", .obj [("type", .str "branchone"),
          ("default", .arr (modulesToJson keepNull default)),
          ("branches", .arr (branchesToJson keepNull branches))]))

def modulesToJson (keepNull : Bool) : List Module → List Json
  | [] => []
  | first :: rest => Module.toJson keepNull first :: modulesToJson keepNull rest

def Branch.toJson (keepNull : Bool) : Branch → Json
  | .mk summary expression modules =>
      .obj [("summary", .str summary), ("expr", .str expression),
        ("modules", .arr (modulesToJson keepNull modules))]

def branchesToJson (keepNull : Bool) : List Branch → List Json
  | [] => []
  | first :: rest => Branch.toJson keepNull first :: branchesToJson keepNull rest

end

def SchemaProperty.toJson (property : SchemaProperty) : Json :=
  .obj [("type", .str property.type), ("description", .str property.description)]

def InputSchema.toJson (schema : InputSchema) : Json :=
  .obj [("$schema", .str schema.dialect), ("type", .str "object"),
    ("properties", .obj (schema.properties.entries.map fun entry => (entry.1, entry.2.toJson))),
    ("required", .ofTexts schema.required)]

namespace Document

def toJson (document : Document) : Json :=
  .obj [("summary", .str document.summary), ("description", .str document.description),
    ("value", .obj [("modules", .arr (modulesToJson false document.modules))]),
    ("schema", document.schema.toJson)]

/-- The text of a document that is shown as its preview. -/
def render (indent : Option Int) (document : Document) : Text :=
  document.toJson.render indent

end Document

end Flowchart
