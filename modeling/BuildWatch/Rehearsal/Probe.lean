import BuildWatch.Rehearsal.Platform

namespace BuildWatch.Rehearsal

open BuildWatch

structure Probe where
  platform : Platform := {}
  held : String → Option StreamId := fun _ => none
  streams : List StreamId := []
  calls : List Call := []

inductive ProbeStep where
  | cue (cue : Cue)
  | fetch (job : String)
  | openStream (job : String)
  | next (job : String)
  | dropStream (job : String)
  | list (challenge : String)
  | challenge (id : String)
  | calls
  | count (call : String)
  deriving Repr

inductive ProbeReply where
  | cue (reply : CueReply)
  | snapshot (snapshot : Snapshot) (millis : Nat)
  | opened
  | chunk (chunk : Chunk)
  | ended
  | pending
  | noStream
  | dropped (existed : Bool)
  | list (summaries : List Summary)
  | challenge (challenge : Challenge)
  | calls (calls : List Call)
  | count (count : Nat)
  | fault (fault : Fault)
  deriving DecidableEq, Repr

namespace Probe

def record (probe : Probe) (call : Call) : Probe :=
  { probe with calls := probe.calls ++ [call] }

def release (probe : Probe) (job : String) : Probe :=
  match probe.held job with
  | none => probe
  | some stream =>
    { probe with
      held := assign probe.held job none
      streams := probe.streams.erase stream }

def hold (probe : Probe) (job : String) (stream : StreamId) : Probe :=
  let probe := probe.release job
  { probe with
    held := assign probe.held job (some stream)
    streams := stream :: probe.streams }

def act (probe : Probe) : ProbeStep → Probe × ProbeReply
  | .cue cue =>
    let (platform, reply) := probe.platform.cue probe.streams.contains cue
    ({ probe with platform }, .cue reply)
  | .fetch job =>
    let (result, platform) := probe.platform.fetch job
    let probe := { probe.record (.snapshot job) with platform }
    match result with
    | .ok snapshot => (probe, .snapshot snapshot platform.delay)
    | .error fault => (probe, .fault fault)
  | .openStream job =>
    let (result, platform) := probe.platform.openStream job
    let probe := { probe.record (.stream job) with platform }
    match result with
    | .ok stream => (probe.hold job stream, .opened)
    | .error fault => (probe, .fault fault)
  | .next job =>
    match probe.held job with
    | none => (probe, .noStream)
    | some stream =>
      let after := { probe with platform := probe.platform.takeItem stream }
      match probe.platform.next? stream with
      | none => (probe, .pending)
      | some none => (probe, .ended)
      | some (some (.ok chunk)) => (after, .chunk chunk)
      | some (some (.error fault)) => (after, .fault fault)
  | .dropStream job => (probe.release job, .dropped (probe.held job).isSome)
  | .list challenge =>
    let probe := probe.record (.list challenge)
    match probe.platform.answers.list challenge with
    | .ok summaries => (probe, .list summaries)
    | .error fault => (probe, .fault fault)
  | .challenge id =>
    let probe := probe.record (.challenge id)
    match probe.platform.answers.challenge id with
    | .ok challenge => (probe, .challenge challenge)
    | .error fault => (probe, .fault fault)
  | .calls => (probe, .calls probe.calls)
  | .count call => (probe, .count ((probe.calls.map Call.text).count call))

def run (probe : Probe) : List ProbeStep → List ProbeReply
  | [] => []
  | step :: rest =>
    let (probe, reply) := probe.act step
    reply :: probe.run rest

end Probe

end BuildWatch.Rehearsal
