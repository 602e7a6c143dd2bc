import Flowchart.Graph.Basic
import Flowchart.Json.Basic
import Flowchart.Text.Numeral

/-!
Anomalies that a compilation passes over: what it met, how it tells it, and when two of them count
as the same.
-/

namespace Flowchart

inductive Warning where
  | unresolvedTarget (node : Text) (edge : Edge)
  | missingBranchEdge (node : Text) (row : BranchRow)
  | ambiguousSuccessor (node : Text) (edge : Edge) (outgoing : Nat)
  | incompleteAction (node : Text)
  deriving DecidableEq, Repr

inductive WarningKind where
  | unresolvedTarget
  | missingBranchEdge
  | ambiguousSuccessor
  | incompleteAction
  deriving DecidableEq, Repr

def WarningKind.name : WarningKind → Text
  | unresolvedTarget => "unresolved_target"
  | missingBranchEdge => "missing_branch_edge"
  | ambiguousSuccessor => "ambiguous_successor"
  | incompleteAction => "incomplete_action"

namespace Warning

def kind : Warning → WarningKind
  | unresolvedTarget .. => .unresolvedTarget
  | missingBranchEdge .. => .missingBranchEdge
  | ambiguousSuccessor .. => .ambiguousSuccessor
  | incompleteAction .. => .incompleteAction

def node : Warning → Text
  | unresolvedTarget node _ => node
  | missingBranchEdge node _ => node
  | ambiguousSuccessor node _ _ => node
  | incompleteAction node => node

def edge? : Warning → Option Edge
  | unresolvedTarget _ edge => some edge
  | ambiguousSuccessor _ edge _ => some edge
  | _ => none

def branch? : Warning → Option Text
  | missingBranchEdge _ row => some row.id
  | _ => none

def edgeId? (warning : Warning) : Option Text :=
  warning.edge?.bind Edge.id

def message : Warning → Text
  | unresolvedTarget node edge =>
      "Edge from '" ++ node ++ "' points to unknown node '" ++ edge.target ++ "'"
  | missingBranchEdge node row =>
      "Branch '" ++ row.label ++ "' of condition '" ++ node ++ "' is not connected"
  | ambiguousSuccessor node _ outgoing =>
      "Node '" ++ node ++ "' has " ++ numeral outgoing ++ " outgoing edges; following the first"
  | incompleteAction node => "Action node '" ++ node ++ "' has no action selected"

/-- What tells two warnings apart. Edges need no id, so the handle and the target of an edge count
too. -/
structure Key where
  kind : WarningKind
  node : Text
  branch : Option Text
  edgeId : Option Text
  handle : Option Text
  target : Option Text
  deriving DecidableEq, Repr

def key (warning : Warning) : Key where
  kind := warning.kind
  node := warning.node
  branch := warning.branch?
  edgeId := warning.edgeId?
  handle := warning.edge?.bind Edge.sourceHandle
  target := warning.edge?.map Edge.target

/-- The first warning of each key that is not in `seen`. -/
def distinct (seen : List Key) : List Warning → List Warning
  | [] => []
  | warning :: rest =>
      if warning.key ∈ seen then distinct seen rest
      else warning :: distinct (warning.key :: seen) rest

def toJson (warning : Warning) : Json :=
  .obj [("kind", .str warning.kind.name), ("message", .str warning.message),
    ("node_id", .str warning.node), ("edge_id", .ofText? warning.edgeId?)]

end Warning

end Flowchart
