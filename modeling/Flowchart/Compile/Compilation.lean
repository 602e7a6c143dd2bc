import Flowchart.Compile.Schema
import Flowchart.Compile.Walk
import Flowchart.Document.Dump

/-!
Compiling a graph: from its one input node the walk makes the modules, and the node's properties
make the schema.
-/

namespace Flowchart

/-- Why a graph has no document. -/
inductive CompileError where
  | noEntry
  | multipleEntries (ids : List Text)
  | cycle (ids : List Text)
  deriving DecidableEq, Repr

namespace CompileError

def kind : CompileError → Text
  | noEntry => "no_entry_node"
  | multipleEntries _ => "multiple_entry_nodes"
  | cycle _ => "cycle_detected"

def message : CompileError → Text
  | noEntry => "No start node"
  | multipleEntries ids => "Expected one input node, found " ++ numeral ids.length
  | cycle ids => "Cycle detected: " ++ Text.intercalate " -> " ids

def nodes : CompileError → List Text
  | noEntry => []
  | multipleEntries ids => ids
  | cycle ids => ids

def toJson (error : CompileError) : Json :=
  .obj [("kind", .str error.kind), ("message", .str error.message),
    ("node_ids", .ofTexts error.nodes)]

end CompileError

/-- What a compilation reports. -/
structure Compilation where
  result : Except CompileError Document
  warnings : List Warning
  /-- The id of the input node, if there is exactly one. -/
  entry : Text
  nodeCount : Nat
  edgeCount : Nat
  /-- The ids of the nodes compiled, in the order in which the walk met them. -/
  compiled : List Text

inductive Status where
  | compiled
  | compiledWithWarnings
  | notCompilable
  deriving DecidableEq, Repr

def Status.name : Status → Text
  | compiled => "compiled"
  | compiledWithWarnings => "compiled_with_warnings"
  | notCompilable => "not_compilable"

namespace Compilation

def succeeded (compilation : Compilation) : Bool :=
  compilation.result.isOk

def document? (compilation : Compilation) : Option Document :=
  compilation.result.toOption

def error? (compilation : Compilation) : Option CompileError :=
  match compilation.result with
  | .ok _ => none
  | .error error => some error

def status (compilation : Compilation) : Status :=
  match compilation.result with
  | .error _ => .notCompilable
  | .ok _ => if compilation.warnings = [] then .compiled else .compiledWithWarnings

def errorJson (compilation : Compilation) : Json :=
  match compilation.error? with
  | some error => error.toJson
  | none => .null

def warningsJson (compilation : Compilation) : Json :=
  .arr (compilation.warnings.map Warning.toJson)

def toJson (compilation : Compilation) : Json :=
  .obj [("success", .bool compilation.succeeded), ("error", compilation.errorJson),
    ("warnings", compilation.warningsJson), ("entry_node", .str compilation.entry),
    ("node_count", .int compilation.nodeCount), ("edge_count", .int compilation.edgeCount),
    ("compiled_node_ids", .ofTexts compilation.compiled),
    ("flow", match compilation.document? with
      | some document => document.toJson
      | none => .null)]

end Compilation

/-- The properties that an input node declares. -/
def Node.properties (node : Node) : List InputProperty :=
  match node.payload with
  | .input properties => properties
  | _ => []

theorem Graph.mem_of_mem_inputs {graph : Graph} {node : Node} (member : node ∈ graph.inputs) :
    node ∈ graph.nodes :=
  (List.mem_filter.mp member).1

/-- Compiles a graph into a document of the given summary and description. -/
def Graph.compile (graph : Graph) (options : Options) (summary description : Text) :
    Compilation :=
  let failed (error : CompileError) (entry : Text) (warnings : List Warning) : Compilation :=
    { result := .error error, warnings, entry, nodeCount := graph.nodes.length,
      edgeCount := graph.edges.length, compiled := [] }
  match found : graph.inputs with
  | [] => failed .noEntry "" []
  | [entry] =>
      let trace := graph.walk [] ⟨entry, Graph.mem_of_mem_inputs (by simp [found])⟩
      match trace.outcome with
      | .error ids => failed (.cycle ids) entry.id trace.warnings
      | .ok modules =>
          { result := .ok ⟨summary, description, modules,
              InputSchema.derive options entry.properties⟩
            warnings := trace.warnings
            entry := entry.id
            nodeCount := graph.nodes.length
            edgeCount := graph.edges.length
            compiled := trace.compiled }
  | several => failed (.multipleEntries (several.map Node.id)) "" []

end Flowchart
