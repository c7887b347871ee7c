import BuildWatch.Wire.Records

namespace BuildWatch

inductive Transport where
  | stream
  | poll
  deriving DecidableEq, Repr

abbrev nanosPerMilli : Nat := 1000000

structure ViewerConfig where
  interval : Nat := 2000 * nanosPerMilli
  transport : Transport := .stream
  refreshesList : Bool := true
  deriving DecidableEq, Repr

namespace ViewerConfig

def polling (interval : Nat) : ViewerConfig :=
  { interval, transport := .poll }

def intervalMillis (config : ViewerConfig) : Nat :=
  config.interval / nanosPerMilli % UInt64.size

end ViewerConfig

/-! ## The settings file -/

namespace Wire

open Json

def transportOfName? : String → Option Transport
  | "stream" => some .stream
  | "poll" => some .poll
  | _ => none

def transportName : Transport → String
  | .stream => "stream"
  | .poll => "poll"

def transport : Codec Transport :=
  Codec.variant "`stream` or `poll`" transportOfName? transportName

def millis : Codec Nat :=
  (Codec.whole "u64" 0 word).map (fun value => value.toNat * nanosPerMilli)
    (fun interval => (interval / nanosPerMilli % UInt64.size : Nat))

def viewerConfigRecord : Record ViewerConfig where
  name := "ViewerConfig"
  fields := [
    .defaulted "poll_interval" millis (2000 * nanosPerMilli),
    .defaulted "live_transport" transport .stream,
    .defaulted "refresh_summaries_on_poll" Codec.flag true]
  ofValues := fun (interval, transport, refreshesList, ()) =>
    { interval, transport, refreshesList }
  toValues value := (value.interval, value.transport, value.refreshesList, ())

def viewerConfig : Codec ViewerConfig := viewerConfigRecord.codec

end Wire

/-! ## Plans -/

inductive Plan where
  | pushStream
  | pollLoop (interval : Nat) (refreshesList : Bool)
  deriving DecidableEq, Repr

def Plan.forStatus? (config : ViewerConfig) (status : Status) : Option Plan :=
  if status.isLive then
    match config.transport with
    | .stream => some .pushStream
    | .poll => some (.pollLoop config.interval config.refreshesList)
  else none

end BuildWatch
