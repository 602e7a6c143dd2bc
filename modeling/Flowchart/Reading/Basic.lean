import Flowchart.Json.Basic
import Flowchart.Keyed
import Flowchart.Reading.Flaw

/-!
Readings: the attempt to take a JSON value for something else ends with the thing read or with all
flaws found, in order. A reading of several parts goes on after a flaw, so that every part is
looked at.
-/

namespace Flowchart

/-- Something read, or the flaws that prevent it. -/
inductive Reading (α : Type) where
  | accepted (value : α)
  | flawed (flaws : List Flaw)
  deriving DecidableEq

namespace Reading

variable {α β : Type}

def map (change : α → β) : Reading α → Reading β
  | accepted value => accepted (change value)
  | flawed flaws => flawed flaws

/-- Puts two readings together; the flaws of both are kept. -/
def seq : Reading (α → β) → Reading α → Reading β
  | accepted change, accepted value => accepted (change value)
  | accepted _, flawed flaws => flawed flaws
  | flawed flaws, accepted _ => flawed flaws
  | flawed first, flawed second => flawed (first ++ second)

instance : Applicative Reading where
  pure := accepted
  map := map
  seq reading next := seq reading (next ())

def fault (fault : Fault) : Reading α :=
  flawed [⟨[], fault⟩]

/-- A reading of a part, told from the whole. -/
def under (step : Step) : Reading α → Reading α
  | accepted value => accepted value
  | flawed flaws => flawed (flaws.map (Flaw.under step))

def toExcept : Reading α → Except (List Flaw) α
  | accepted value => .ok value
  | flawed flaws => .error flaws

/-! ## Members of an object -/

def field (members : List (Text × Json)) (name : Text) (read : Json → Reading α) :
    Reading α :=
  match Json.member? members name with
  | some value => (read value).under (.name name)
  | none => (fault .missing).under (.name name)

def fieldOr (members : List (Text × Json)) (name : Text) (default : α)
    (read : Json → Reading α) : Reading α :=
  match Json.member? members name with
  | some value => (read value).under (.name name)
  | none => accepted default

/-- Of two spellings of a member's name the one that counts: the first, unless only the second is
there. -/
def spelling (members : List (Text × Json)) (first second : Text) : Text :=
  if (Json.member? members first).isNone && (Json.member? members second).isSome then second
  else first

def nullable (read : Json → Reading α) : Json → Reading (Option α)
  | .null => accepted none
  | value => some <$> read value

/-! ## Containers -/

/-- Reads items one after another, the first one being number `place`. -/
def items (read : Json → Reading α) (place : Nat) : List Json → Reading (List α)
  | [] => accepted []
  | item :: rest =>
      List.cons <$> (read item).under (.index place) <*> items read (place + 1) rest

/-- An array whose items are all read; any other value has the given fault. -/
def array (otherwise : Fault) (read : Json → Reading α) : Json → Reading (List α)
  | .arr values => items read 0 values
  | _ => fault otherwise

def entries (read : Json → Reading α) : List (Text × Json) → Reading (List (Text × α))
  | [] => accepted []
  | (name, value) :: rest =>
      List.cons <$> (Prod.mk name <$> (read value).under (.name name)) <*> entries read rest

def keyed (read : Json → Reading α) : Json → Reading (Keyed α)
  | .obj members => Keyed.ofList <$> entries read members
  | _ => fault .notMap

/-- An object taken for what the members tell; any other value has the given fault. -/
def object (otherwise : Fault) (read : List (Text × Json) → Reading α) : Json → Reading α
  | .obj members => read members
  | _ => fault otherwise

end Reading

/-- Where a value comes from: it is handed over, or it is sent in the body of a request. -/
inductive Source where
  | caller
  | body
  deriving DecidableEq, Repr

namespace Source

/-- The fault of a value that is no object in place of the given model. -/
def notModel (source : Source) (model : Text) : Fault :=
  match source with
  | caller => .notModel model
  | body => .notMembers

/-- The fault of a value that is no array in place of a collection. -/
def notCollection : Source → Fault
  | caller => .notRow
  | body => .notList

end Source

end Flowchart
