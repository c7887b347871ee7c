import BuildWatch.Text.Blank
import BuildWatch.Text.Letters

namespace BuildWatch

inductive Fault where
  | transport (detail : String)
  | notFound (what : String)
  | remote (detail : String)
  | protocol (detail : String)
  | cancelled
  deriving DecidableEq, Repr, Inhabited

namespace Fault

def message : Fault → String
  | transport detail => "Transport error: " ++ detail
  | notFound what => "Not found: " ++ what
  | remote detail => "Remote error: " ++ detail
  | protocol detail => "Protocol error: " ++ detail
  | cancelled => "Cancelled"

def isCancelled : Fault → Bool
  | cancelled => true
  | _ => false

def isNotFound : Fault → Bool
  | notFound _ => true
  | _ => false

/-- The fault that a message inside an answer stands for. A blank message is none, and one that
speaks of something not found, in any case of its letters, is `notFound`. -/
def ofMessage? (raw : String) : Option Fault :=
  let message := Text.trimmed raw
  if message = "" then none
  else if Text.occurs "not found".toList (Text.lower message.toList) then some (notFound message)
  else some (remote message)

def check (raw : String) : Except Fault Unit :=
  match ofMessage? raw with
  | none => .ok ()
  | some fault => .error fault

end Fault

end BuildWatch
