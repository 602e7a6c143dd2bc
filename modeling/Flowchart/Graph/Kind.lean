import Flowchart.Graph.Basic

/-!
The registered kinds of nodes with their names.
-/

namespace Flowchart.Kind

def all : List Kind := [.input, .action, .condition]

def name : Kind → Text
  | .input => "input"
  | .action => "action"
  | .condition => "condition"

/-- The name under which the canvas draws nodes of a kind. -/
def canvasType : Kind → Text
  | .input => "app-input"
  | .action => "app-action"
  | .condition => "app-condition"

def label : Kind → Text
  | .input => "Input"
  | .action => "Action"
  | .condition => "Condition"

/-- An input node comes with the graph; only the others can be dropped from the palette. -/
def isDroppable : Kind → Bool
  | .input => false
  | _ => true

def ofName? (name : Text) : Option Kind :=
  all.find? (·.name = name)

def ofCanvasType? (canvasType : Text) : Option Kind :=
  all.find? (·.canvasType = canvasType)

@[simp]
theorem ofName?_name (kind : Kind) : ofName? kind.name = some kind := by
  cases kind <;> rfl

@[simp]
theorem ofCanvasType?_canvasType (kind : Kind) :
    ofCanvasType? kind.canvasType = some kind := by
  cases kind <;> rfl

theorem ofName?_eq_some_iff {name : Text} {kind : Kind} :
    ofName? name = some kind ↔ name = kind.name := by
  constructor
  · intro found
    have named := List.find?_some found
    exact (of_decide_eq_true named).symm
  · rintro rfl
    exact ofName?_name kind

theorem ofCanvasType?_eq_some_iff {canvasType : Text} {kind : Kind} :
    ofCanvasType? canvasType = some kind ↔ canvasType = kind.canvasType := by
  constructor
  · intro found
    have named := List.find?_some found
    exact (of_decide_eq_true named).symm
  · rintro rfl
    exact ofCanvasType?_canvasType kind

end Flowchart.Kind
