import BuildWatch.Text.Utf8
import BuildWatch.Wire.Endpoint
import BuildWatch.Wire.Reply

/-!
# Requests and their answers

The platform answers a request with a status code and a body. A code that is not a success decides
alone; otherwise the body has to be a reply of the kind asked for, and the reply decides.
-/

namespace BuildWatch.Client

structure Response where
  status : Nat
  body : ByteArray

inductive RequestError where
  | unsendable
  | unanswered (address : String)
  | undecodable (problem : Json.DecodeError)
  | refused (fault : Fault)
  deriving DecidableEq, Repr

/-- What a failed request is reported as. The texts for a request that cannot be made and for one
that gets no answer stand in for those of the library that sends it. -/
def RequestError.fault : RequestError → Fault
  | unsendable => .transport "builder error"
  | unanswered address => .transport ("error sending request for url (" ++ address ++ ")")
  | undecodable problem => .protocol problem.message
  | refused fault => fault

namespace Response

def isSuccess (response : Response) : Bool :=
  200 ≤ response.status && response.status < 300

def statusFault (response : Response) (path : String) : Fault :=
  if response.status = 404 then .notFound path
  else
    .remote ("HTTP " ++ toString response.status ++ ": " ++
      Text.trimmed (Text.lossy response.body))

def result {α β : Type} (response : Response) (path : String) (reply : Json.Codec α)
    (value : α → Except Fault β) : Except RequestError β :=
  if response.isSuccess then
    match reply.decodeBytes response.body with
    | .error problem => .error (.undecodable problem)
    | .ok reply => (value reply).mapError .refused
  else .error (.refused (response.statusFault path))

end Response

/-! ## The three requests -/

/-- A question to the platform: the path to ask at and the meaning of the response. -/
structure Query (α : Type) where
  path : String
  result : Response → Except RequestError α

def challengeQuery (id : String) : Query Challenge where
  path := Wire.challengePath id
  result response :=
    response.result (Wire.challengePath id) Wire.challengeReply fun reply => reply.result id

def listQuery (challenge : String) : Query (List Summary) where
  path := Wire.listPath challenge
  result response :=
    response.result (Wire.listPath challenge) Wire.listReply Wire.ListReply.result

def snapshotQuery (job : String) : Query Snapshot where
  path := Wire.logPath job
  result response := response.result (Wire.logPath job) Wire.logReply Wire.LogReply.result

end BuildWatch.Client
