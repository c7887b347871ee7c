import BuildWatch.Text.Utf8
import BuildWatch.Wire.Endpoint
import BuildWatch.Wire.Frame

namespace BuildWatch.Client

inductive Message where
  | text (text : String)
  | binary (bytes : ByteArray)
  | ping
  | pong
  | close

inductive StreamError where
  | badAddress
  | badToken
  | unanswered
  | refused (status : Nat)
  | broken
  | badText (bad : Text.BadSequence)
  | badFrame (problem : Wire.FrameError)
  deriving DecidableEq, Repr

/-- What a failed stream is reported as. The texts for a stream that is not opened and for one that
breaks off stand in for those of the library that opens it. -/
def StreamError.fault : StreamError → Fault
  | badAddress => .transport "invalid stream address"
  | badToken => .transport "invalid auth token: failed to parse header value"
  | unanswered => .transport "stream could not be opened"
  | refused status =>
    if status = 404 then .notFound "build log stream"
    else .transport ("HTTP error: " ++ toString status)
  | broken => .transport "connection reset without closing handshake"
  | badText bad => .protocol bad.message
  | badFrame problem => problem.fault

def frameItem (text : String) : Except StreamError Chunk :=
  (Wire.decodeFrame text).mapError .badFrame

def Message.item? : Message → Option (Except StreamError Chunk)
  | .text line => some (frameItem line)
  | .binary bytes =>
    match Text.decode bytes with
    | .ok line => some (frameItem line)
    | .error bad => some (.error (.badText bad))
  | .ping | .pong | .close => none

def Message.isClose : Message → Bool
  | .close => true
  | _ => false

def items (messages : List Message) : List (Except StreamError Chunk) :=
  (messages.takeWhile fun message => !message.isClose).filterMap Message.item? ++
    if messages.any Message.isClose then [] else [.error .broken]

inductive Handshake where
  | refused (status : Nat)
  | opened (messages : List Message)

def Handshake.result : Handshake → Except StreamError (List (Except StreamError Chunk))
  | refused status => .error (.refused status)
  | opened messages => .ok (items messages)

end BuildWatch.Client
