import BuildWatch.Follow.Viewer

/-!
# A platform that follows a script

A rehearsal puts a viewer in front of a platform that does as it is told: `Cue`s queue up the
answers it will give and feed its streams by hand. An answer is settled when the call is made, and
so is the time it will take.

* Snapshots of a job are answered in the order queued; the last one stays.
* Streams of a job are used up in the order queued. A stream ends when all of its items are taken
  and nobody can feed it any more.
* What has not been scripted is not found; lists are empty instead.
-/

namespace BuildWatch.Rehearsal

open BuildWatch

structure Channel where
  items : List (Except Fault Chunk)
  isFed : Bool
  deriving Repr

structure Platform where
  snapshots : String → List (Except Fault Snapshot) := fun _ => []
  queued : Nat := 0
  streams : String → List (Except Fault StreamId) := fun _ => []
  lists : String → List Summary := fun _ => []
  listFault : Option Fault := none
  challenges : String → Except Fault Challenge := fun id => .error (.notFound id)
  delay : Nat := 0
  channels : List Channel := []
  feeds : String → Option StreamId := fun _ => none

inductive Cue where
  | snapshot (job : String) (result : Except Fault Snapshot)
  | delay (millis : Nat)
  | stream (job : String) (items : List (Except Fault Chunk))
  /-- A stream that is fed by hand from now on. The host keeps one sender for each job, so an earlier
  stream of the job ends, whether somebody holds it or it still waits. One is enough: what becomes
  of an item that is sent does not depend on the other streams of the job. -/
  | liveStream (job : String)
  | refuseStream (job : String) (fault : Fault)
  | list (challenge : String) (summaries : List Summary)
  | failLists (fault : Fault)
  | challenge (challenge : Challenge)
  | failChallenge (id : String) (fault : Fault)
  | feed (job : String) (items : List (Except Fault Chunk))
  | endFeed (job : String)
  deriving Repr

inductive CueReply where
  | done
  | sent (each : List Bool)
  | ended (existed : Bool)
  deriving DecidableEq, Repr

def assign {α : Type} (table : String → α) (key : String) (value : α) : String → α :=
  fun other => if other = key then value else table other

namespace Platform

/-! ## Answers -/

def answers (platform : Platform) : Answers where
  list id :=
    match platform.listFault with
    | some fault => .error fault
    | none => .ok (platform.lists id)
  challenge := platform.challenges

def fetch (platform : Platform) (job : String) : Except Fault Snapshot × Platform :=
  match platform.snapshots job with
  | [] => (.error (.notFound job), platform)
  | [last] => (last, platform)
  | first :: rest =>
    (first, { platform with snapshots := assign platform.snapshots job rest })

def openStream (platform : Platform) (job : String) : Except Fault StreamId × Platform :=
  match platform.streams job with
  | [] => (.error (.notFound job), platform)
  | first :: rest => (first, { platform with streams := assign platform.streams job rest })

def next? (platform : Platform) (stream : StreamId) : Option StreamItem :=
  match platform.channels[stream]? with
  | none => some none
  | some { items := [], isFed } => if isFed then none else some none
  | some { items := item :: _, .. } => some (some item)

def modifyChannel (platform : Platform) (stream : StreamId) (change : Channel → Channel) :
    Platform :=
  { platform with channels := platform.channels.modify stream change }

def takeItem (platform : Platform) (stream : StreamId) : Platform :=
  platform.modifyChannel stream fun channel => { channel with items := channel.items.drop 1 }

/-! ## Cues -/

def queueStream (platform : Platform) (job : String) (result : Except Fault StreamId) : Platform :=
  { platform with
    streams := assign platform.streams job (platform.streams job ++ [result]) }

def addStream (platform : Platform) (job : String) (channel : Channel) : Platform :=
  { platform with channels := platform.channels ++ [channel] }.queueStream job
    (.ok platform.channels.length)

def endFeed (platform : Platform) (job : String) : Platform :=
  match platform.feeds job with
  | none => platform
  | some stream =>
    { platform.modifyChannel stream fun channel => { channel with isFed := false } with
      feeds := assign platform.feeds job none }

def isQueued (platform : Platform) (job : String) (stream : StreamId) : Bool :=
  (platform.streams job).any fun
    | .ok queued => queued == stream
    | .error _ => false

def sink? (platform : Platform) (isHeld : StreamId → Bool) (job : String) : Option StreamId :=
  (platform.feeds job).filter fun stream => platform.isQueued job stream || isHeld stream

def cue (platform : Platform) (isHeld : StreamId → Bool) : Cue → Platform × CueReply
  | .snapshot job result =>
    let queue := platform.snapshots job ++ [result]
    ({ platform with
        snapshots := assign platform.snapshots job queue
        queued := platform.queued + 1 }, .done)
  | .delay millis => ({ platform with delay := millis }, .done)
  | .stream job items => (platform.addStream job { items, isFed := false }, .done)
  | .liveStream job =>
    let stream := platform.channels.length
    let platform := (platform.endFeed job).addStream job { items := [], isFed := true }
    ({ platform with feeds := assign platform.feeds job (some stream) }, .done)
  | .refuseStream job fault => (platform.queueStream job (.error fault), .done)
  | .list challenge summaries =>
    ({ platform with
        lists := assign platform.lists challenge summaries
        listFault := none }, .done)
  | .failLists fault => ({ platform with listFault := some fault }, .done)
  | .challenge challenge =>
    ({ platform with
        challenges := assign platform.challenges challenge.id (.ok challenge) }, .done)
  | .failChallenge id fault =>
    ({ platform with challenges := assign platform.challenges id (.error fault) }, .done)
  | .feed job items =>
    match platform.sink? isHeld job with
    | none => (platform, .sent (items.map fun _ => false))
    | some stream =>
      (platform.modifyChannel stream fun channel =>
          { channel with items := channel.items ++ items },
        .sent (items.map fun _ => true))
  | .endFeed job => (platform.endFeed job, .ended (platform.feeds job).isSome)

end Platform

end BuildWatch.Rehearsal
