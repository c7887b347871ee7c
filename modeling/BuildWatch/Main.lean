import BuildWatch.Client.Framing
import BuildWatch.Client.Head
import BuildWatch.Command.Run
import Std.Async.DNS
import Std.Async.TCP
import Std.Async.Timer

namespace BuildWatch

open Std.Async Client

/-! ## Connections -/

def addressesOf (place : Place) : Async (List Std.Net.SocketAddress) := do
  let found ← DNS.getAddrInfo place.bareHost (toString place.port)
  return found.toList.map fun
    | .v4 addr => .v4 { addr, port := place.port.toUInt16 }
    | .v6 addr => .v6 { addr, port := place.port.toUInt16 }

def connectFirst : List Std.Net.SocketAddress → Async TCP.Socket.Client
  | [] => throw (IO.userError "no address")
  | address :: rest => do
    try
      let socket ← TCP.Socket.Client.mk
      socket.connect address
      return socket
    catch problem => if rest.isEmpty then throw problem else connectFirst rest

def connect (address : String) : Async (Place × TCP.Socket.Client) := do
  match Place.ofAddress? address with
  | none => throw (IO.userError "no plain address")
  | some place => return (place, ← connectFirst (← addressesOf place))

partial def readUntil {α : Type} (socket : TCP.Socket.Client) (bytes : ByteArray)
    (progress : ByteArray → Bool → Progress α) : Async (Option α) := do
  let next ← socket.recv? 65536
  let bytes := bytes ++ next.getD ByteArray.empty
  match progress bytes next.isNone with
  | .complete value => return some value
  | .malformed => return none
  | .unfinished => if next.isNone then return none else readUntil socket bytes progress

def exchange (request : Request) : Async (Option Response) := do
  let (place, socket) ← connect request.address
  socket.send (queryText place request).toUTF8
  readUntil socket ByteArray.empty responseOf

def get (settings : Settings) (request : Request) : IO (Option Response) := do
  let late : Async (Option Response) := do
    sleep (Std.Time.Millisecond.Offset.ofNat settings.timeoutMillis)
    return none
  try (Async.race (exchange request) late).block catch _ => return none

def askNetwork {α : Type} (settings : Settings) (query : Query α) : IO (Except Fault α) := do
  let response ← match request? settings query.path with
    | none => pure none
    | some request => get settings request
  let link : Link := { response? := fun _ _ => response, handshake? := fun _ _ => none }
  return Command.answer link settings [] query

/-! ## Streams -/

structure OpenStream where
  socket : TCP.Socket.Client
  bytes : ByteArray
  assembly : Assembly := {}

def headProgress (bytes : ByteArray) (_isEnd : Bool) : Progress (ResponseHead × ByteArray) :=
  match cutHead? bytes with
  | none => .unfinished
  | some (none, _) => .malformed
  | some (some head, rest) => .complete (head, rest)

def shakeHands (request : Request) : Async (Except StreamError OpenStream) := do
  let (place, socket) ← connect request.address
  let random ← IO.getRandomBytes 22
  socket.send (handshakeText place request (streamKey random.data.toList)).toUTF8
  match ← readUntil socket ByteArray.empty headProgress with
  | none => return .error .unanswered
  | some (head, bytes) =>
    if head.status = 101 then return .ok { socket, bytes } else return .error (.refused head.status)

def openNetworkStream (settings : Settings) (job : String) :
    IO (Except StreamError OpenStream) := do
  match streamRequest settings job with
  | .error problem => return .error problem
  | .ok request => try (shakeHands request).block catch _ => return .error .unanswered

def sendFrame (socket : TCP.Socket.Client) (kind : FrameKind) (payload : ByteArray) :
    Async Unit := do
  let mask ← IO.getRandomBytes 4
  socket.send (({ kind, isLast := true, payload } : SocketFrame).encode mask.data.toList)

partial def nextItem (stream : OpenStream) : Async (Option (Except StreamError Chunk) × OpenStream) :=
  match SocketFrame.cut? stream.bytes with
  | none => do
    match ← stream.socket.recv? 65536 with
    | none => return (some (.error .broken), stream)
    | some bytes => nextItem { stream with bytes := stream.bytes ++ bytes }
  | some (frame, bytes) => do
    let stream := { stream with bytes }
    match stream.assembly.take frame with
    | .malformed => return (some (.error .broken), stream)
    | .part assembly => nextItem { stream with assembly }
    | .message message =>
      let isData := [FrameKind.text, .binary, .continuation].contains frame.kind
      let stream := if isData then { stream with assembly := {} } else stream
      match message with
      | .close =>
        try sendFrame stream.socket .close ByteArray.empty catch _ => pure ()
        return (none, stream)
      | .ping =>
        sendFrame stream.socket .pong frame.payload
        nextItem stream
      | other =>
        match other.item? with
        | none => nextItem stream
        | some item => return (some item, stream)

/-! ## Watching -/

def emit (before after : Command.Output) : IO Unit := do
  let out ← IO.getStdout
  out.putStr (after.out.drop before.out.length).copy
  out.flush
  (← IO.getStderr).putStr (after.errors.drop before.errors.length).copy

def listsAsked (watch : Command.Watch) (action : Action) : List String :=
  let calls := (watch.viewer.act Command.noAnswers action).calls
  (calls.drop watch.viewer.calls.length).filterMap fun
    | .list challenge => some challenge
    | _ => none

def listAnswers (settings : Settings) (asked : List String) : IO Answers := do
  match asked with
  | [] => return Command.noAnswers
  | challenge :: _ =>
    let result ← askNetwork settings (listQuery challenge)
    return { Command.noAnswers with list := fun _ => result }

def act (settings : Settings) (watch : Command.Watch) (action : Action) : IO Command.Watch := do
  let answers ← listAnswers settings (listsAsked watch action)
  let after := watch.act answers action
  emit watch.output after.output
  return after

partial def follow (settings : Settings) (watch : Command.Watch) (stream : Option OpenStream) :
    IO Command.Watch := do
  match watch.want? with
  | none => return watch
  | some (.turn action) => follow settings (← act settings watch action) stream
  | some (.snapshot id job) =>
    let result ← askNetwork settings (snapshotQuery job)
    follow settings (← act settings watch (.answer id result)) stream
  | some (.stream id job) =>
    match ← openNetworkStream settings job with
    | .ok stream => follow settings (← act settings watch (.openStream id (.ok 0))) (some stream)
    | .error problem =>
      follow settings (← act settings watch (.openStream id (.error problem.fault))) none
  | some (.item id) =>
    let (item, stream) ← match stream with
      | none => pure (none, none)
      | some stream =>
        try
          let (item, stream) ← (nextItem stream).block
          pure (item, some stream)
        catch _ => pure (some (.error .broken), none)
    let item := item.map fun item => item.mapError StreamError.fault
    follow settings (← act settings watch (.receive id item)) stream
  | some (.rest id nanos) =>
    IO.sleep (min (nanos / nanosPerMilli) (UInt32.size - 1)).toUInt32
    follow settings (← act settings watch (.wake id)) stream

def enterNetwork (settings : Settings) (challenge : String) : IO Answers := do
  if challenge = "" then return Command.noAnswers
  let found ← askNetwork settings (challengeQuery challenge)
  let summaries ← match found with
    | .ok _ => askNetwork settings (listQuery challenge)
    | .error fault => pure (.error fault)
  return { challenge := fun _ => found, list := fun _ => summaries }

def watchNetwork (settings : Settings) (colored : Bool) (options : Command.WatchOptions) :
    IO Command.Output := do
  let watch := Command.Watch.start colored options (← enterNetwork settings options.challenge)
  emit {} watch.output
  return (← follow settings watch none).output

/-! ## The command -/

def runNetwork (invocation : Command.Invocation) (colored : Bool) : IO Nat := do
  match invocation.order, invocation.settings with
  | .version, _ => finish { out := Command.versionText }
  | _, .error problem => finish (.failure problem.message "" "")
  | .watch challenge job config, .ok settings =>
    return (← watchNetwork settings colored { challenge, job, config }).code
  | .list challenge asJson, .ok settings =>
    finish (Command.list colored asJson (← askNetwork settings (listQuery challenge)))
  | .show job, .ok settings =>
    finish (Command.show colored job (← askNetwork settings (snapshotQuery job)))
where
  finish (output : Command.Output) : IO Nat := do
    emit {} output
    return output.code

def variableNames : List String :=
  ["CTF_API_URL", "CTF_WS_URL", "CTF_AUTH_TOKEN", "CTF_POLL_INTERVAL_MS", "CLICOLOR_FORCE",
    "NO_COLOR", "CLICOLOR"]

def runCommand (arguments : List String) : IO Nat := do
  let values ← variableNames.mapM fun name => do return (name, ← IO.getEnv name)
  let lookup (name : String) : Option String := (values.lookup name).join
  match Command.Invocation.read arguments lookup with
  | .error stop =>
    emit {} stop.output
    if stop = .usage then (← IO.getStderr).putStr Command.usageText
    return stop.output.code
  | .ok invocation =>
    let isTerminal ← (← IO.getStdout).isTty
    runNetwork invocation (Command.isColored isTerminal lookup)

end BuildWatch

def main (arguments : List String) : IO UInt32 := do
  return (← BuildWatch.runCommand arguments).toUInt32
