import Flowchart.Keyed

/-!
Documents: the nested form of a flowchart that an engine runs. Modules are run in order; a branch
module chooses one of several module lists.
-/

namespace Flowchart

mutual

/-- One unit of work, under the id of the node that it stands for. -/
inductive Module where
  /-- Runs the action at a path; each parameter gets an expression. -/
  | script (id : Text) (summary : Option Text) (path : Option Text)
      (transforms : Keyed Text)
  /-- Runs the first branch that applies, else the default list. -/
  | branchOne (id : Text) (summary : Option Text) (default : List Module)
      (branches : List Branch)

/-- A guarded list of modules. -/
inductive Branch where
  | mk (summary : Text) (expression : Text) (modules : List Module)

end

namespace Module

def id : Module → Text
  | script id .. => id
  | branchOne id .. => id

def isScript : Module → Bool
  | script .. => true
  | branchOne .. => false

end Module

namespace Branch

def summary : Branch → Text
  | mk summary _ _ => summary

def expression : Branch → Text
  | mk _ expression _ => expression

def modules : Branch → List Module
  | mk _ _ modules => modules

end Branch

/-- A value that the flow asks for. -/
structure SchemaProperty where
  type : Text
  description : Text
  deriving DecidableEq, Repr

/-- The JSON Schema of what the flow asks for. -/
structure InputSchema where
  dialect : Text
  properties : Keyed SchemaProperty
  required : List Text
  deriving DecidableEq

/-- The dialect of a schema unless another one is wanted. -/
def defaultDialect : Text := "https://json-schema.org/draft/2020-12/schema"

structure Document where
  summary : Text
  description : Text
  modules : List Module
  schema : InputSchema

end Flowchart
