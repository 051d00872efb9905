import Signage.Service.Context
import Signage.Service.Target

/-! The addresses a hub answers at. -/
namespace Signage.Service

/-- A request to a hub. -/
structure Request where
  method : String
  /-- Where the request goes to: a path, or a whole address. -/
  target : String
  userAgent : Option String
  ifModifiedSince : Option String

/-- The answer to a request. -/
structure Reply where
  status : Nat
  headers : Poll.Headers
  body : ByteArray

/-- The places of a hub. -/
inductive Place where
  | index
  | health
  deriving DecidableEq, Repr

/-- The place that a target leads to. -/
def place? (target : String) : Option Place :=
  match (targetPath? target.toList).map String.ofList with
  | some "/smil-index" => some .index
  | some "/health" => some .health
  | _ => none

/-- The value of a header, unless a character in it could not be seen there. -/
def headerValue (value : Option String) : Option String :=
  value.filter fun text => text.toList.all fun c => c == '\t' || (' ' ≤ c && c ≤ '~')

/-- The headers of an answer without a body; it is told that there is none. -/
def withLength (headers : Poll.Headers) : Poll.Headers :=
  if headers.any fun header => header.1 == "content-length" then headers
  else headers ++ [("content-length", "0")]

def Reply.empty (status : Nat) (headers : Poll.Headers) : Reply :=
  ⟨status, withLength headers, .empty⟩

/-- The answer that a poll is given. -/
def Reply.ofResponse (now : Calendar.Moment) (response : Poll.Response) : Reply :=
  match response with
  | .served _ _ => ⟨response.status, response.headers now, response.body⟩
  | _ => .empty response.status (response.headers now)

/-- The answer without its body, as it is given when only the head is asked for. -/
def Reply.head (reply : Reply) : Reply := { reply with body := .empty }

/-- The answer at a place. -/
def answerAt (dispatcher : Poll.Dispatcher) (network : Network) (now : Calendar.Clock)
    (request : Request) (state : State) : Place → Reply × State
  | .health => (.empty 200 [], state)
  | .index =>
    let (response, state) := poll dispatcher network now
      ⟨(headerValue request.userAgent).getD "",
        (headerValue request.ifModifiedSince).map String.toList⟩ state
    (.ofResponse now.moment response, state)

/-- The answer to a request, and what the hub keeps after it. -/
def answer (dispatcher : Poll.Dispatcher) (network : Network) (now : Calendar.Clock)
    (request : Request) (state : State) : Reply × State :=
  match place? request.target with
  | none => (.empty 404 [], state)
  | some place =>
    if request.method = "GET" then answerAt dispatcher network now request state place
    else if request.method = "HEAD" then
      let (reply, state) := answerAt dispatcher network now request state place
      (reply.head, state)
    else (.empty 405 [("allow", "GET,HEAD")], state)

end Signage.Service
