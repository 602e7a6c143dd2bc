import Flowchart.Json.Sendable
import Flowchart.Refusal

/-!
What the service sends back.
-/

namespace Flowchart

inductive Response where
  | json (status : Nat) (body : Json)
  | text (status : Nat) (body : Text)

namespace Response

def ok (body : Json) : Response := json 200 body

def detail (status : Nat) (text : Text) : Response :=
  json status (.obj [("detail", .str text)])

/-- Tells the flaws of a body. -/
def unprocessable (flaws : List Flaw) : Response :=
  json 422 (.obj [("detail", .arr (flaws.map Flaw.toJson))])

/-- What is sent when only the head of a response is asked for. -/
def head : Response → Response
  | json status _ | text status _ => text status ""

/-- Something went wrong that the service has no words for. -/
def failure : Response := text 500 "Internal Server Error"

/-- Sends a body, if it can be sent. -/
def send (body : Json) : Response :=
  if body.isSendable then ok body else failure

end Response

end Flowchart
