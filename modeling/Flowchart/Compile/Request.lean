import Flowchart.Compile.Compilation
import Flowchart.Refusal

/-!
Compilations whose options and texts come as JSON values.
-/

namespace Flowchart

open Reading

structure CompileRequest where
  dialect : Json
  honorRequired : Json
  summary : Json
  description : Json

namespace CompileRequest

/-- A vacant dialect stands for the default one. -/
def readDialect (request : CompileRequest) : Reading Text :=
  if request.dialect.isVacant then accepted defaultDialect
  else (text request.dialect).under (.name "schema_uri")

/-- Flags are honoured unless the value is vacant and not null. -/
def honors (request : CompileRequest) : Bool :=
  match request.honorRequired with
  | .null => true
  | value => !value.isVacant

def readTexts (request : CompileRequest) : Reading (Text × Text) :=
  Prod.mk <$> (text request.summary).under (.name "summary")
    <*> (text request.description).under (.name "description")

def options (request : CompileRequest) : Except Refusal Options :=
  request.readDialect.toExcept.mapError (.invalid "InputSchema") |>.map fun dialect =>
    ⟨dialect, request.honors⟩

def texts (request : CompileRequest) : Except Refusal (Text × Text) :=
  request.readTexts.toExcept.mapError (.invalid "FlowDocument")

/-- Compiles a graph. A graph without a document is told so whatever the request says; only a
document makes its flaws count, those of the schema first. -/
def run (request : CompileRequest) (graph : Graph) : Except Refusal Compilation :=
  match request.options, request.texts with
  | .ok options, .ok (summary, description) => .ok (graph.compile options summary description)
  | .error refusal, _ => orElse refusal
  | _, .error refusal => orElse refusal
where
  /-- Turns a request down unless there is no document anyway. -/
  orElse (refusal : Refusal) : Except Refusal Compilation :=
    let compilation := graph.compile Options.default "" ""
    if compilation.succeeded then .error refusal else .ok compilation

def derive (request : CompileRequest) (properties : List InputProperty) :
    Except Refusal InputSchema :=
  request.options.map fun options => InputSchema.derive options properties

end CompileRequest

/-- Compiles what the canvas hands over, in one call with the default options. -/
def compileCanvas (nodes edges summary description : Json) : Except Refusal Compilation := do
  (CompileRequest.mk .null .null summary description).run (← Graph.ofCanvas nodes edges)

/-- The properties of an input payload that stands on its own. -/
def Payload.loadInput (value : Json) : Except Refusal (List InputProperty) :=
  (Reading.object (.notModel "InputNodeData") (Payload.readInput .caller) value).toExcept.mapError
    (.invalid "InputNodeData")

end Flowchart
