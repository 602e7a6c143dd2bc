import Flowchart.Graph.Reading
import Flowchart.Json.Reader
import Flowchart.Service.Response
import Flowchart.Text.Encoding

/-!
What comes with a request: its body, and what the routes read from it.
-/

namespace Flowchart

open Reading

/-- The body of a request: none, a JSON value, or bytes that should be one. -/
inductive Body where
  | missing
  | ofJson (value : Json)
  | ofBytes (bytes : List UInt8)

namespace Body

/-- The answer to bytes that are no text or hold a number that is not read. -/
def unreadable : Response := .detail 400 "There was an error parsing the body"

def parse (text : Text) : Except Response Json :=
  match Json.read text with
  | .ok value => .ok value
  | .error (.unexpected offset) =>
      .error (.unprocessable [⟨[.name "body", .index offset], .malformed⟩])
  | .error .tooManyDigits => .error unreadable

/-- The JSON value of a body, if it has one. -/
def load : Body → Except Response (Option Json)
  | .missing => .ok none
  | .ofJson value => .ok (some value)
  | .ofBytes [] => .ok none
  | .ofBytes bytes =>
      match textOfBytes? bytes with
      | some text => (parse text).map some
      | none => .error unreadable

/-- The JSON value of a body that has to be there. -/
def loadRequired (body : Body) : Except Response Json := do
  match ← body.load with
  | some value => return value
  | none => .error (.unprocessable [⟨[.name "body"], .missing⟩])

end Body

structure FlowRequest where
  graph : Graph
  summary : Text
  description : Text

def FlowRequest.read : Json → Reading FlowRequest :=
  object .notMembers fun members =>
    FlowRequest.mk <$> Graph.readMembers .body members
      <*> fieldOr members "summary" "" text
      <*> fieldOr members "description" "" text

/-- The place that a fresh node is asked for; null asks for none. -/
def readPlace : Json → Reading (Keyed Binary64)
  | .null => accepted Keyed.empty
  | value =>
      object .notMembers
        (fun members => (·.getD Keyed.empty) <$>
          fieldOr members "position" none (nullable (keyed number))) value

/-- Reads a body, or gives the answer that tells its flaws. A flaw is told together with the value
that has it, so that a flaw of a value which cannot be sent cannot be told. -/
def Response.ofReading {α : Type} (read : Json → Reading α) (value : Json) : Except Response α :=
  match read value with
  | accepted result => .ok result
  | flawed flaws =>
      if flaws.all fun flaw => (value.follow flaw.place).isSendable then
        .error (.unprocessable (flaws.map (Flaw.under (.name "body"))))
      else .error .failure

end Flowchart
