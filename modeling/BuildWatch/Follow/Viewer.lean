import BuildWatch.Follow.Session
import BuildWatch.View.Store

/-!
# The viewer

A viewer holds the screen, the session it is busy with and all sessions there have been. It is a
machine: an `Action` is what the host asks for or one turn of a session, and `Viewer.act` is its
effect. A turn is atomic. Sessions wait between their turns, so their actions may come in any order
and mixed with those of the host; an action that does not fit the stage of its session does nothing.

What the platform answers at once, its lists and challenges, is given along with an action; the
answers that take time are actions of their own. A list may take time as well: then a session waits
for it, and a request of the host is made of its parts, which are `Action.publish`,
`Action.setChallenge` and `Action.openJob`.
-/

namespace BuildWatch

inductive Call where
  | snapshot (job : String)
  | stream (job : String)
  | list (challenge : String)
  | challenge (id : String)
  deriving DecidableEq, Repr

def Call.text : Call → String
  | .snapshot job => "snapshot:" ++ job
  | .stream job => "stream:" ++ job
  | .list id => "summaries:" ++ id
  | .challenge id => "challenge:" ++ id

/-- A request to show the newest output, with the log as it is at that moment. -/
structure Scroll where
  viewport : Nat
  shown : Option SelectedLog
  deriving DecidableEq, Repr

structure Answers where
  list : String → Except Fault (List Summary)
  challenge : String → Except Fault Challenge
  /-- Whether a session has to wait for a list, the answer being an action of its own. -/
  delaysList : Bool := false

structure Slot where
  session : SessionId
  job : String
  /-- Whether someone already waits, or has waited, for its outcome. -/
  isJoined : Bool := false
  deriving DecidableEq, Repr

structure Viewer where
  config : ViewerConfig := {}
  store : ViewStore := {}
  sessions : List Session := []
  current : Option Slot := none
  challenge : Option String := none
  viewport : Option Nat := none
  calls : List Call := []
  scrolls : List Scroll := []
  deriving DecidableEq, Repr

namespace Viewer

/-! ## Parts -/

def state (viewer : Viewer) : ViewState :=
  viewer.store.state

def session? (viewer : Viewer) : SessionId → Option Session
  | 0 => none
  | n + 1 => viewer.sessions[n]?

def modify (viewer : Viewer) (id : SessionId) (change : Session → Session) : Viewer :=
  { viewer with
    sessions :=
      match id with
      | 0 => viewer.sessions
      | n + 1 => viewer.sessions.modify n change }

def setStage (viewer : Viewer) (id : SessionId) (stage : Stage) : Viewer :=
  viewer.modify id fun session => { session with stage }

def dispatch (viewer : Viewer) (event : ViewEvent) : Viewer :=
  { viewer with store := viewer.store.dispatch event }

def dispatchAll (viewer : Viewer) (events : List ViewEvent) : Viewer :=
  events.foldl dispatch viewer

def call (viewer : Viewer) (call : Call) : Viewer :=
  { viewer with calls := viewer.calls ++ [call] }

def activeJob (viewer : Viewer) : Option String :=
  viewer.current.bind fun slot =>
    if viewer.store.isActive slot.session then some slot.job else none

def isDisplayed (viewer : Viewer) (job : String) : Bool :=
  match viewer.state.selected with
  | some log => log.job == job
  | none => viewer.activeJob == some job

def stop (viewer : Viewer) : Viewer :=
  match viewer.current with
  | none => viewer
  | some slot =>
    { viewer.modify slot.session fun session => { session with isCancelled := true } with
      current := none }

def release (viewer : Viewer) (id : SessionId) : Viewer :=
  if viewer.current.map Slot.session = some id then { viewer with current := none } else viewer

def askList (viewer : Viewer) (challenge : String) : Viewer :=
  (viewer.dispatch .listLoadStarted).call (.list challenge)

def listAnswered (viewer : Viewer) (result : Except Fault (List Summary)) : Viewer × Bool :=
  match result with
  | .ok summaries => (viewer.dispatch (.listLoaded summaries), true)
  | .error _ => (viewer.dispatch .listLoadFinished, false)

def loadList (viewer : Viewer) (answers : Answers) (challenge : String) : Viewer × Bool :=
  (viewer.askList challenge).listAnswered (answers.list challenge)

def isLoading (viewer : Viewer) : Bool :=
  viewer.sessions.any fun session => session.stage == .loading

/-! ## Turns of a session -/

/-- An event of a session, unless the session has been stopped or the event is refused. -/
def publish? (viewer : Viewer) (session : Session) (event : ViewEvent) : Option Viewer :=
  if !session.isCancelled && viewer.state.accepts event then some (viewer.dispatch event) else none

def scroll (viewer : Viewer) (session : Session) : Viewer :=
  match session.viewport with
  | none => viewer
  | some viewport =>
    { viewer with
      scrolls := viewer.scrolls ++ [{ viewport, shown := viewer.state.selected }] }

def conclude (viewer : Viewer) (id : SessionId) (outcome : Outcome) : Viewer :=
  let viewer := viewer.setStage id (.over outcome)
  if outcome = .cancelled then viewer else viewer.dispatch (.sessionFinished id)

def goOn (viewer : Viewer) (id : SessionId) : Option Nat → Viewer
  | some tick => viewer.setStage id (.resting tick)
  | none => viewer.conclude id .completed

def refreshFor (viewer : Viewer) (answers : Answers) (id : SessionId) (session : Session)
    (next : Option Nat) : Viewer :=
  match session.challenge with
  | none => viewer.goOn id next
  | some challenge =>
    if session.isCancelled then viewer.goOn id next
    else if answers.delaysList then (viewer.askList challenge).setStage id (.listing next)
    else (viewer.loadList answers challenge).1.goOn id next

def outcomeOf (fault : Fault) : Outcome :=
  if fault.isCancelled then .cancelled else .failed

def poll (viewer : Viewer) (id : SessionId) (session : Session) (tick : Nat) : Viewer :=
  (viewer.call (.snapshot session.job)).setStage id (.fetching tick)

def begin (viewer : Viewer) (id : SessionId) (session : Session) : Viewer :=
  if session.isCancelled then viewer.conclude id .cancelled
  else
    match session.plan with
    | some (.pollLoop _ _) => viewer.poll id session 0
    | _ => (viewer.call (.stream session.job)).setStage id .opening

def opened (viewer : Viewer) (id : SessionId) (session : Session)
    (result : Except Fault StreamId) : Viewer :=
  if session.isCancelled then viewer.conclude id .cancelled
  else
    match result with
    | .ok stream => viewer.setStage id (.receiving stream)
    | .error fault => viewer.conclude id (outcomeOf fault)

def received (viewer : Viewer) (answers : Answers) (id : SessionId) (session : Session)
    (item : StreamItem) : Viewer :=
  if session.isCancelled then viewer.conclude id .cancelled
  else
    match item with
    | none => viewer.conclude id .ended
    | some (.error fault) => viewer.conclude id (outcomeOf fault)
    | some (.ok chunk) =>
      match viewer.publish? session (.chunkReceived id chunk.line chunk.status) with
      | none => viewer.conclude id .superseded
      | some viewer =>
        let viewer := if chunk.line = "" then viewer else viewer.scroll session
        if chunk.isComplete then viewer.refreshFor answers id session none else viewer

/-- The answer to a poll. A fault is passed over, and the first poll refreshes no list. -/
def polled (viewer : Viewer) (answers : Answers) (id : SessionId) (session : Session) (tick : Nat)
    (result : Except Fault Snapshot) : Viewer :=
  if session.isCancelled then viewer.conclude id .cancelled
  else
    match result with
    | .error _ => viewer.setStage id (.resting (tick + 1))
    | .ok snapshot =>
      match viewer.publish? session (.snapshotReceived id session.job snapshot) with
      | none => viewer.conclude id .superseded
      | some viewer =>
        let viewer := viewer.scroll session
        let next := if snapshot.status.isTerminal then none else some (tick + 1)
        if 0 < tick ∧ session.pollPlan.2 then viewer.refreshFor answers id session next
        else viewer.goOn id next

def rested (viewer : Viewer) (id : SessionId) (session : Session) (tick : Nat) : Viewer :=
  if session.isCancelled then viewer.conclude id .cancelled else viewer.poll id session tick

def listed (viewer : Viewer) (id : SessionId) (next : Option Nat)
    (result : Except Fault (List Summary)) : Viewer :=
  (viewer.listAnswered result).1.goOn id next

def showLoaded (viewer : Viewer) (id : SessionId) (session : Session)
    (result : Except Fault Snapshot) : Viewer × Outcome :=
  let publish (event : ViewEvent) : Viewer := (viewer.publish? session event).getD viewer
  match result with
  | .ok snapshot =>
    ((publish (.snapshotReceived id session.job snapshot)).dispatch (.sessionFinished id),
      .completed)
  | .error fault =>
    if fault.isCancelled || session.isCancelled then (viewer, .cancelled)
    else if fault.isNotFound then
      let message := "build log not found: " ++ session.job
      ((publish (.snapshotFailed id session.job message true)).dispatch (.sessionFinished id),
        .failed)
    else
      ((publish (.snapshotFailed id session.job "failed to load build log" false)).dispatch
        (.sessionFinished id), .failed)

def loaded (viewer : Viewer) (id : SessionId) (session : Session)
    (result : Except Fault Snapshot) : Viewer :=
  let (viewer, outcome) := viewer.showLoaded id session result
  ((viewer.setStage id (.over outcome)).release id).dispatchAll session.sequel

/-! ## What the host asks for -/

def takeOver (viewer : Viewer) (job : String) (status : Status) (sequel : List ViewEvent) :
    Viewer :=
  let id := viewer.sessions.length + 1
  let plan := Plan.forStatus? viewer.config status
  let session : Session :=
    { job, plan
      challenge := viewer.challenge
      viewport := viewer.viewport
      stage := if plan.isSome then .ready else .loading
      sequel := if plan.isSome then [] else sequel }
  { viewer.dispatch (.sessionOpened id job status plan.isSome) with
    sessions := viewer.sessions ++ [session]
    current := some { session := id, job } }

/-- Closes a job that is on screen, or else opens it, stopping the session at hand either way.
`sequel` happens after that; a single load puts it off until its answer has come. -/
def toggle (viewer : Viewer) (job : String) (status : Status) (sequel : List ViewEvent) :
    Viewer × Opened :=
  if viewer.isDisplayed job then
    ((viewer.stop.dispatch .logClosed).dispatchAll sequel, .closed)
  else
    let started := viewer.stop.takeOver job status sequel
    match Plan.forStatus? viewer.config status with
    | some .pushStream => (started.dispatchAll sequel, .streaming)
    | some (.pollLoop _ _) => (started.dispatchAll sequel, .polling)
    | none => (started.call (.snapshot job), .snapshot)

def openJob (viewer : Viewer) (job : String) (known : Option Status) (sequel : List ViewEvent) :
    Viewer × Opened :=
  let status := (known <|> statusOf? viewer.state.summaries job).getD .unspecified
  viewer.toggle job status sequel

def showList (viewer : Viewer) (answers : Answers) (challenge : String) : Viewer :=
  let (viewer, isLoaded) := viewer.loadList answers challenge
  if isLoaded then viewer else viewer.dispatch (.failed "failed to load build logs")

def enter (viewer : Viewer) (answers : Answers) (challenge target : Option String) : Viewer :=
  match challenge.filter (· ≠ "") with
  | none => viewer.dispatch (.failed "no challenge id given")
  | some id =>
    let viewer := (viewer.dispatch .challengeLoadStarted).call (.challenge id)
    match answers.challenge id with
    | .error fault =>
      let message := if fault.isNotFound then "challenge not found" else "failed to load challenge"
      (viewer.dispatch (.failed message)).dispatch .challengeLoadFinished
    | .ok found =>
      let viewer := { viewer.dispatch (.challengeLoaded found) with challenge := some id }
      let viewer := viewer.showList answers id
      match target with
      | none => viewer.dispatch .challengeLoadFinished
      | some job =>
        ((viewer.dispatch .listExpanded).openJob job none [.challengeLoadFinished]).1

def refresh (viewer : Viewer) (answers : Answers) : Viewer :=
  match viewer.state.challenge with
  | none => viewer
  | some challenge => viewer.showList answers challenge.id

def cancel (viewer : Viewer) : Viewer :=
  match viewer.current with
  | none => viewer
  | some _ => viewer.stop.dispatch .sessionCancelled

def join (viewer : Viewer) : Viewer × Option SessionId :=
  match viewer.current with
  | none => (viewer, none)
  | some slot =>
    match viewer.session? slot.session with
    | some session =>
      if session.plan.isSome && !slot.isJoined then
        ({ viewer with current := some { slot with isJoined := true } }, some slot.session)
      else (viewer, none)
    | none => (viewer, none)

end Viewer

/-! ## Actions -/

inductive Action where
  | toggle (job : String) (status : Status)
  | openJob (job : String) (known : Option Status)
  | enter (challenge target : Option String)
  | refresh
  | toggleList
  | cancel
  | join
  /-- The viewer goes away, which stops its session. As long as a single load is under way it
  cannot go. -/
  | drop
  | setChallenge (challenge : Option String)
  | setViewport (viewport : Option Nat)
  | publish (event : ViewEvent)
  | start (session : SessionId)
  | openStream (session : SessionId) (result : Except Fault StreamId)
  | receive (session : SessionId) (item : StreamItem)
  | answer (session : SessionId) (result : Except Fault Snapshot)
  | wake (session : SessionId)
  /-- A session that waits notices that it has been stopped. -/
  | notice (session : SessionId)
  | listed (session : SessionId) (result : Except Fault (List Summary))
  deriving Repr

namespace Viewer

def turn (viewer : Viewer) (id : SessionId) (step : Session → Viewer) : Viewer :=
  match viewer.session? id with
  | none => viewer
  | some session => step session

def act (viewer : Viewer) (answers : Answers) : Action → Viewer
  | .toggle job status => (viewer.toggle job status []).1
  | .openJob job known => (viewer.openJob job known []).1
  | .enter challenge target => viewer.enter answers challenge target
  | .refresh => viewer.refresh answers
  | .toggleList => viewer.dispatch .listToggled
  | .cancel => viewer.cancel
  | .join => viewer.join.1
  | .drop => if viewer.isLoading then viewer else viewer.stop
  | .setChallenge challenge => { viewer with challenge }
  | .setViewport viewport => { viewer with viewport }
  | .publish event => viewer.dispatch event
  | .start id => viewer.turn id fun session =>
    match session.stage with
    | .ready => viewer.begin id session
    | _ => viewer
  | .openStream id result => viewer.turn id fun session =>
    match session.stage with
    | .opening => viewer.opened id session result
    | _ => viewer
  | .receive id item => viewer.turn id fun session =>
    match session.stage with
    | .receiving _ => viewer.received answers id session item
    | _ => viewer
  | .answer id result => viewer.turn id fun session =>
    match session.stage with
    | .fetching tick => viewer.polled answers id session tick result
    | .loading => viewer.loaded id session result
    | _ => viewer
  | .wake id => viewer.turn id fun session =>
    match session.stage with
    | .resting tick => viewer.rested id session tick
    | _ => viewer
  | .notice id => viewer.turn id fun session =>
    match session.stage with
    | .opening | .receiving _ | .resting _ =>
      if session.isCancelled then viewer.conclude id .cancelled else viewer
    | _ => viewer
  | .listed id result => viewer.turn id fun session =>
    match session.stage with
    | .listing next => viewer.listed id next result
    | _ => viewer

def run (viewer : Viewer) (actions : List (Answers × Action)) : Viewer :=
  actions.foldl (fun viewer step => viewer.act step.1 step.2) viewer

end Viewer

end BuildWatch
