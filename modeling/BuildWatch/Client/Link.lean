import BuildWatch.Address.Target
import BuildWatch.Address.Web
import BuildWatch.Client.Exchange
import BuildWatch.Client.Settings
import BuildWatch.Client.Socket

namespace BuildWatch.Client

structure Request where
  address : String
  token : Option String
  deriving DecidableEq, Repr

structure Link where
  response? : List Request → Request → Option Response
  handshake? : List Request → Request → Option Handshake

def Link.down : Link where
  response? _ _ := none
  handshake? _ _ := none

def isSendable (token : String) : Bool :=
  token.toList.all fun c => c == '\t' || (0x20 ≤ c.toNat && c.toNat != 0x7F)

def hasSendableToken (settings : Settings) : Bool :=
  settings.token.all isSendable

def request? (settings : Settings) (path : String) : Option Request := do
  let address ← Address.normal? (settings.baseUrl ++ path)
  if hasSendableToken settings then some { address, token := settings.token } else none

def ask {α : Type} (link : Link) (settings : Settings) (past : List Request) (query : Query α) :
    Except RequestError α :=
  match request? settings query.path with
  | none => .error .unsendable
  | some request =>
    match link.response? past request with
    | none => .error (.unanswered request.address)
    | some response => query.result response

def streamRequest (settings : Settings) (job : String) : Except StreamError Request :=
  let address := settings.streamUrl ++ Wire.streamPath job
  if !Address.isTarget address then .error .badAddress
  else if !hasSendableToken settings then .error .badToken
  else .ok { address, token := settings.token }

def openStream (link : Link) (settings : Settings) (past : List Request) (job : String) :
    Except StreamError (List (Except StreamError Chunk)) := do
  let request ← streamRequest settings job
  match link.handshake? past request with
  | none => .error .unanswered
  | some handshake => handshake.result

end BuildWatch.Client
