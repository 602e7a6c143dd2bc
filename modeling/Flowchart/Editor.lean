import Flowchart.Graph.Dump
import Flowchart.Graph.Normalize
import Flowchart.Palette

/-!
Editing a graph step by step. An edit that is refused leaves the graph as it was.
-/

namespace Flowchart

inductive Edit where
  /-- Takes over the canvas's collections in place of the graph. -/
  | load (nodes edges : Json)
  | initial
  /-- Adds raw nodes and edges behind those that are there. -/
  | add (nodes edges : List Json)
  /-- Drops a fresh node from the palette. -/
  | drop (id : Text) (kind position : Json)
  | removeNode (id : Text)
  | removeEdge (place : Int)
  | normalize

/-- The graph after an edit. -/
def Graph.edited (graph : Graph) : Edit → Except Refusal Graph
  | .load nodes edges => Graph.ofCanvas nodes edges
  | .initial => .ok .initial
  | .add nodes edges =>
      Graph.ofCanvasItems (graph.nodes.map .model ++ nodes.map .raw)
        (graph.edges.map .model ++ edges.map .raw)
  | .drop id kind position => do
      let node ← Node.create id (← Kind.load kind) position
      return { graph with nodes := graph.nodes ++ [node] }
  | .removeNode id => .ok { graph with nodes := graph.nodes.filter (·.id ≠ id) }
  | .removeEdge place =>
      .ok { graph with
        edges := if place < 0 then graph.edges else graph.edges.eraseIdx place.toNat }
  | .normalize => .ok graph.normalize

/-- The graph that is there after an edit, refused or not. -/
def Graph.after (graph : Graph) (edit : Edit) : Graph :=
  (graph.edited edit).toOption.getD graph

/-- Giving a node another id is always refused, if there is such a node. -/
def Graph.assignId (graph : Graph) (id : Text) : Except Refusal Unit :=
  match graph.node? id with
  | some _ => .error (.invalid "FlowNode" [⟨[.name "id"], .frozen⟩])
  | none => .ok ()

end Flowchart
