import Flowchart.Document.Basic
import Flowchart.Graph.Reading

/-!
The schema of a flow, from the properties that its input node declares.
-/

namespace Flowchart

/-- What a compilation may be told beside the graph. -/
structure Options where
  dialect : Text
  honorRequired : Bool
  deriving DecidableEq, Repr

def Options.default : Options := ⟨defaultDialect, true⟩

/-- A property declared twice keeps its first place and takes its last type. -/
def schemaProperties (properties : List InputProperty) : Keyed SchemaProperty :=
  Keyed.ofList (properties.map fun property => (property.name, ⟨property.type.name, ""⟩))

/-- The names that some declaration flags as required, each once. -/
def requiredNames (properties : List InputProperty) : List Text :=
  ((properties.filter InputProperty.required).map InputProperty.name).eraseDups

def InputSchema.derive (options : Options) (properties : List InputProperty) : InputSchema where
  dialect := options.dialect
  properties := schemaProperties properties
  required := if options.honorRequired then requiredNames properties else []

end Flowchart
