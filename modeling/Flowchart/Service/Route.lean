import Flowchart.Service.Path

/-!
The routes of the service: what can be asked for, under which path and with which method.
-/

namespace Flowchart

inductive Route where
  | health
  | info
  | nodeTypes
  | createNode (kind : String)
  | nodeHandles
  | initialGraph
  | compile
  | preview
  | normalize
  | validate
  deriving DecidableEq, Repr

namespace Route

def method : Route → String
  | health | info | nodeTypes | initialGraph => "GET"
  | _ => "POST"

/-- The route with the given parts between slashes. -/
def ofParts? : List (List Char) → Option Route
  | [[], first] =>
      match String.ofList first with
      | "health" => some health
      | "info" => some info
      | "node-types" => some nodeTypes
      | "node-handles" => some nodeHandles
      | _ => none
  | [[], first, second] =>
      match String.ofList first, String.ofList second with
      | "nodes", kind => if kind = "" then none else some (createNode kind)
      | "flows", "initial" => some initialGraph
      | "flows", "compile" => some compile
      | "flows", "preview" => some preview
      | "flows", "normalize" => some normalize
      | "flows", "validate" => some validate
      | _, _ => none
  | _ => none

/-- The route of a path. A line break at the end is passed over where it is no part of a name. -/
def ofPath? (path : List Char) : Option Route :=
  (ofParts? (path.splitOn '/')).or
    (if path.getLast? = some '\n' then ofParts? (path.dropLast.splitOn '/') else none)

/-- The most times that a request is sent on. -/
def maxHops : Nat := 20

/-- The route of a target that may be sent on a number of times: a path with slashes at its end is
sent on to the target without them if there is a route. -/
def ofHops? (hops : Nat) (target : String) : Option Route :=
  let path := pathOfTarget target
  (ofPath? path).or <|
    let shorter := (path.reverse.dropWhile (· == '/')).reverse
    match hops with
    | 0 => none
    | hops + 1 =>
        if shorter ≠ path ∧ (ofPath? shorter).isSome then ofHops? hops (String.ofList shorter)
        else none

def ofTarget? (target : String) : Option Route :=
  ofHops? maxHops target

end Route

end Flowchart
