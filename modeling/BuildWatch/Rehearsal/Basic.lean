import BuildWatch.Rehearsal.Platform

/-!
# Rehearsals

A rehearsal runs a viewer on a scripted platform and a clock of its own. The clock stands still
while anything can run, and otherwise jumps to the next appointment. Tasks run one at a time, each
until it has to wait, in the order in which they became able to run.

Tasks are the live sessions of the viewer and the errands of its host: an errand is a request that
the host makes in the background. A single load is a part of the request that has begun it.
-/

namespace BuildWatch

open Rehearsal

/-- A moment at which a session goes on: the arrival of an answer, or the end of a rest. -/
structure Rehearsal.Appointment where
  session : SessionId
  due : Nat
  answer : Option (Except Fault Snapshot)
  deriving Repr

inductive Rehearsal.Reply where
  | done
  | opened (opened : Opened)
  | outcome (outcome : Option Outcome)
  | timedOut
  | accepted (accepted : Bool)
  | cue (reply : CueReply)
  deriving DecidableEq, Repr

inductive Rehearsal.Errand where
  | planned (action : Action)
  | loading (session : SessionId) (reply : Reply)
  | waiting (session : SessionId)
  | finished (reply : Reply)

inductive Rehearsal.Task where
  | session (id : SessionId)
  | errand (index : Nat)
  deriving DecidableEq, Repr

structure Rehearsal where
  viewer : Viewer := {}
  platform : Platform := {}
  now : Nat := 0
  agenda : List Appointment := []
  errands : List Errand := []
  ready : List Task := []
  isReleased : Bool := false
  isGone : Bool := false

namespace Rehearsal

/-! ## What can run -/

def due? (rehearsal : Rehearsal) (id : SessionId) : Option Appointment :=
  rehearsal.agenda.find? fun appointment =>
    appointment.session == id && appointment.due ≤ rehearsal.now

def turn? (rehearsal : Rehearsal) (id : SessionId) : Option Action := do
  let session ← rehearsal.viewer.session? id
  match session.stage with
  | .ready => some (.start id)
  | .opening =>
    if session.isCancelled then some (.notice id)
    else some (.openStream id (rehearsal.platform.openStream session.job).1)
  | .receiving stream =>
    if session.isCancelled then some (.notice id)
    else (rehearsal.platform.next? stream).map (.receive id)
  | .fetching _ | .loading => do
    let appointment ← rehearsal.due? id
    return .answer id (← appointment.answer)
  | .resting _ =>
    if session.isCancelled then some (.notice id) else (rehearsal.due? id).map fun _ => .wake id
  | .listing _ =>
    session.challenge.map fun challenge =>
      .listed id (rehearsal.platform.answers.list challenge)
  | .over _ => none

def isLoad (rehearsal : Rehearsal) (id : SessionId) : Bool :=
  (rehearsal.viewer.session? id).any fun session => session.stage == .loading

def canRun (rehearsal : Rehearsal) : Task → Bool
  | .session id => !rehearsal.isLoad id && (rehearsal.turn? id).isSome
  | .errand index =>
    match rehearsal.errands[index]? with
    | some (.planned _) => true
    | some (.loading session _) => (rehearsal.turn? session).isSome
    | some (.waiting session) => (rehearsal.viewer.session? session).any Session.isOver
    | _ => false

def tasks (rehearsal : Rehearsal) : List Task :=
  (List.range rehearsal.viewer.sessions.length).map (fun n => .session (n + 1)) ++
    (List.range rehearsal.errands.length).map .errand

def wake (rehearsal : Rehearsal) : Rehearsal :=
  { rehearsal with
    ready := rehearsal.ready ++
      rehearsal.tasks.filter fun task => !rehearsal.ready.contains task && rehearsal.canRun task }

/-! ## Doing one thing -/

def taken (rehearsal : Rehearsal) : Action → Platform
  | .openStream id _ =>
    match rehearsal.viewer.session? id with
    | some session => (rehearsal.platform.openStream session.job).2
    | none => rehearsal.platform
  | .receive id _ =>
    match (rehearsal.viewer.session? id).bind Session.stream? with
    | some stream => rehearsal.platform.takeItem stream
    | none => rehearsal.platform
  | _ => rehearsal.platform

def millisAtLeast (nanos : Nat) : Nat :=
  (nanos + 999999) / 1000000

def book (rehearsal : Rehearsal) (id : SessionId) : Rehearsal :=
  let rehearsal :=
    { rehearsal with agenda := rehearsal.agenda.filter fun entry => entry.session != id }
  match rehearsal.viewer.session? id with
  | none => rehearsal
  | some session =>
    match session.stage with
    | .fetching _ | .loading =>
      let (result, platform) := rehearsal.platform.fetch session.job
      let appointment :=
        { session := id, due := rehearsal.now + platform.delay, answer := some result }
      { rehearsal with platform, agenda := appointment :: rehearsal.agenda }
    | .resting _ =>
      let due := rehearsal.now + millisAtLeast session.pollPlan.1
      { rehearsal with agenda := { session := id, due, answer := none } :: rehearsal.agenda }
    | _ => rehearsal

def participant (before after : Viewer) : Action → SessionId
  | .start id | .openStream id _ | .receive id _ | .answer id _ | .wake id | .notice id
  | .listed id _ => id
  | _ => if before.sessions.length < after.sessions.length then after.sessions.length else 0

def perform (rehearsal : Rehearsal) (action : Action) : Rehearsal :=
  let viewer := rehearsal.viewer.act rehearsal.platform.answers action
  let platform := rehearsal.taken action
  let id := participant rehearsal.viewer viewer action
  let rehearsal := { rehearsal with viewer, platform }
  (if id = 0 then rehearsal else rehearsal.book id).wake

def release (rehearsal : Rehearsal) : Rehearsal :=
  let isNeeded := rehearsal.errands.any fun
    | .finished _ => false
    | _ => true
  if rehearsal.isReleased && !rehearsal.isGone && !isNeeded then
    { rehearsal.perform .drop with isGone := true }
  else rehearsal

def reply (viewer : Viewer) : Action → Reply
  | .toggle job status => .opened (viewer.toggle job status []).2
  | .openJob job known => .opened (viewer.openJob job known []).2
  | .publish event => .accepted (viewer.store.send event).2
  | _ => .done

def load? (before after : Viewer) : Option SessionId :=
  let id := after.sessions.length
  if before.sessions.length < id then
    (after.session? id).bind fun session => if session.stage = .loading then some id else none
  else none

def startErrand (rehearsal : Rehearsal) (action : Action) : Rehearsal × Errand :=
  let after := rehearsal.perform action
  match action with
  | .join =>
    match rehearsal.viewer.join.2 with
    | none => (after, .finished (.outcome none))
    | some id => (after, .waiting id)
  | _ =>
    let reply := reply rehearsal.viewer action
    match load? rehearsal.viewer after.viewer with
    | none => (after, .finished reply)
    | some id =>
      match after.turn? id with
      | none => (after, .loading id reply)
      | some answer => (after.perform answer, .finished reply)

def setErrand (rehearsal : Rehearsal) (index : Nat) (errand : Errand) : Rehearsal :=
  ({ rehearsal with errands := rehearsal.errands.set index errand }.wake).release

def runTask (rehearsal : Rehearsal) : Task → Rehearsal
  | .session id =>
    match rehearsal.turn? id with
    | none => rehearsal
    | some action => rehearsal.perform action
  | .errand index =>
    match rehearsal.errands[index]? with
    | some (.planned action) =>
      let (rehearsal, errand) := rehearsal.startErrand action
      rehearsal.setErrand index errand
    | some (.loading session reply) =>
      match rehearsal.turn? session with
      | none => rehearsal
      | some answer => (rehearsal.perform answer).setErrand index (.finished reply)
    | some (.waiting session) =>
      match (rehearsal.viewer.session? session).bind Session.outcome? with
      | some outcome => rehearsal.setErrand index (.finished (.outcome (some outcome)))
      | none => rehearsal
    | _ => rehearsal

/-! ## Running until everything waits -/

def step (rehearsal : Rehearsal) : Rehearsal :=
  match rehearsal.ready with
  | [] => rehearsal
  | task :: rest =>
    if rehearsal.canRun task then rehearsal.runTask task else { rehearsal with ready := rest }

/-- Enough turns for everything to run until it waits, unless polls without a rest between them find
the same answer again and again: a turn takes an item or an answer, or brings a session or an errand
forward. -/
def effort (rehearsal : Rehearsal) : Nat :=
  let items := rehearsal.platform.channels.foldl (fun n channel => n + channel.items.length) 0
  2 * (items + rehearsal.platform.queued) +
    16 * (rehearsal.viewer.sessions.length + 2 * rehearsal.errands.length + 2)

def settleWithin (rehearsal : Rehearsal) : Nat → Rehearsal
  | 0 => rehearsal
  | fuel + 1 => if rehearsal.ready.isEmpty then rehearsal else rehearsal.step.settleWithin fuel

def settle (rehearsal : Rehearsal) : Rehearsal :=
  let rehearsal := rehearsal.wake
  rehearsal.settleWithin rehearsal.effort

/-! ## Letting time pass -/

def nextDue? (rehearsal : Rehearsal) : Option Nat :=
  ((rehearsal.agenda.map Appointment.due).filter (rehearsal.now < ·)).min?

def runUntil (rehearsal : Rehearsal) (stop : Rehearsal → Bool) (now limit : Nat) : Rehearsal :=
  let rehearsal := { rehearsal with now }.settle
  if stop rehearsal then rehearsal
  else
    match rehearsal.nextDue? with
    | none => { rehearsal with now := limit }
    | some due =>
      if now < due ∧ due < limit then rehearsal.runUntil stop due limit
      else { rehearsal with now := limit }
  termination_by limit - now

/-- Lets time pass up to a moment; what is due at that moment has not run. -/
def passTo (rehearsal : Rehearsal) (limit : Nat) : Rehearsal :=
  if rehearsal.now < limit then rehearsal.runUntil (fun _ => false) rehearsal.now limit
  else rehearsal

def awaitLoad (rehearsal : Rehearsal) (id : SessionId) : Rehearsal :=
  match rehearsal.agenda.find? fun appointment => appointment.session == id with
  | none => rehearsal
  | some appointment =>
    let rehearsal := rehearsal.passTo appointment.due
    match rehearsal.turn? id with
    | none => rehearsal
    | some answer => rehearsal.perform answer

def awaitOutcome (rehearsal : Rehearsal) (id : SessionId) (timeout : Nat) : Rehearsal × Reply :=
  let outcome? (rehearsal : Rehearsal) : Option Outcome :=
    (rehearsal.viewer.session? id).bind Session.outcome?
  let isOver (rehearsal : Rehearsal) : Bool := (outcome? rehearsal).isSome
  let rehearsal :=
    if isOver rehearsal then rehearsal
    else
      let rehearsal := rehearsal.runUntil isOver rehearsal.now (rehearsal.now + timeout)
      if isOver rehearsal then rehearsal else rehearsal.settle
  match outcome? rehearsal with
  | some outcome => (rehearsal, .outcome (some outcome))
  | none => (rehearsal, .timedOut)

end Rehearsal

end BuildWatch
