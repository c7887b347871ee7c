import BuildWatch.Proofs.Follow.ListOnScreen
import BuildWatch.Proofs.Follow.Turns

/-!
# Setbacks

What an action tells the screen, event by event, and which of these events respond to a call that
has failed. A setback leaves the challenge, the list and the log on screen alone; at most the empty
log of a job that is not known comes on a screen without one.

* `act_announces`: the screen after an action is the one before it with all its announcements.
* `failed_call_spares_screen`: the announcements that respond to a fault, in every run.
-/

namespace BuildWatch

structure Announcement where
  event : ViewEvent
  fault : Option Fault := none

def saying (fault : Option Fault) (events : List ViewEvent) : List Announcement :=
  events.map fun event => { event, fault }

def ViewState.hearing (state : ViewState) (announced : List Announcement) : ViewState :=
  announced.foldl (fun state announcement => state.reduce announcement.event) state

theorem ViewState.hearing_append {state : ViewState} {earlier later : List Announcement} :
    state.hearing (earlier ++ later) = (state.hearing earlier).hearing later :=
  List.foldl_append

namespace Viewer

/-! ## Announcements -/

def challengeSetback (fault : Fault) : List ViewEvent :=
  [.failed (if fault.isNotFound then "challenge not found" else "failed to load challenge"),
    .challengeLoadFinished]

def listSetback : List ViewEvent :=
  [.listLoadFinished, .failed "failed to load build logs"]

def loadSetback (id : SessionId) (job : String) (fault : Fault) : List ViewEvent :=
  [if fault.isNotFound then .snapshotFailed id job ("build log not found: " ++ job) true
    else .snapshotFailed id job "failed to load build log" false,
    .sessionFinished id]

def endEvents (id : SessionId) (outcome : Outcome) : List ViewEvent :=
  if outcome = .cancelled then [] else [.sessionFinished id]

def goOnEvents (id : SessionId) : Option Nat → List ViewEvent
  | some _ => []
  | none => endEvents id .completed

def listAnnounced (result : Except Fault (List Summary)) : List Announcement :=
  match result with
  | .ok summaries => saying none [.listLoaded summaries]
  | .error fault => saying fault [.listLoadFinished]

def showListAnnounced (result : Except Fault (List Summary)) : List Announcement :=
  saying none [.listLoadStarted] ++
    match result with
    | .ok summaries => saying none [.listLoaded summaries]
    | .error fault => saying fault listSetback

def refreshAnnounced (answers : Answers) (id : SessionId) (session : Session)
    (next : Option Nat) : List Announcement :=
  match session.challenge with
  | none => saying none (goOnEvents id next)
  | some challenge =>
    if session.isCancelled then saying none (goOnEvents id next)
    else if answers.delaysList then saying none [.listLoadStarted]
    else saying none [.listLoadStarted] ++ listAnnounced (answers.list challenge) ++
      saying none (goOnEvents id next)

def openedAnnounced (id : SessionId) (session : Session) (result : Except Fault StreamId) :
    List Announcement :=
  if session.isCancelled then []
  else
    match result with
    | .ok _ => []
    | .error fault => saying fault (endEvents id (outcomeOf fault))

section
variable (viewer : Viewer) (answers : Answers) (id : SessionId) (session : Session)

def updateAnnounced (event : ViewEvent) (next : List Announcement) : List Announcement :=
  if (viewer.publish? session event).isSome then saying none [event] ++ next
  else saying none (endEvents id .superseded)

def receivedAnnounced (item : StreamItem) : List Announcement :=
  if session.isCancelled then []
  else
    match item with
    | none => saying none (endEvents id .ended)
    | some (.error fault) => saying fault (endEvents id (outcomeOf fault))
    | some (.ok chunk) =>
      viewer.updateAnnounced id session (.chunkReceived id chunk.line chunk.status) <|
        if chunk.isComplete then refreshAnnounced answers id session none else []

def polledAnnounced (tick : Nat) (result : Except Fault Snapshot) : List Announcement :=
  if session.isCancelled then []
  else
    match result with
    | .error _ => []
    | .ok snapshot =>
      let next := if snapshot.status.isTerminal then none else some (tick + 1)
      viewer.updateAnnounced id session (.snapshotReceived id session.job snapshot) <|
        if 0 < tick ∧ session.pollPlan.2 then refreshAnnounced answers id session next
        else saying none (goOnEvents id next)

def loadedAnnounced (result : Except Fault Snapshot) : List Announcement :=
  match result with
  | .ok snapshot =>
    saying none (if session.isCancelled then [] else [.snapshotReceived id session.job snapshot]) ++
      saying none [.sessionFinished id]
  | .error fault =>
    if fault.isCancelled || session.isCancelled then []
    else saying fault (loadSetback id session.job fault)

def toggleEvents (job : String) (status : Status) (sequel : List ViewEvent) : List ViewEvent :=
  if viewer.isDisplayed job then .logClosed :: sequel
  else
    let live := (Plan.forStatus? viewer.config status).isSome
    .sessionOpened (viewer.sessions.length + 1) job status live :: if live then sequel else []

def openJobEvents (job : String) (known : Option Status) (sequel : List ViewEvent) :
    List ViewEvent :=
  viewer.toggleEvents job ((known <|> statusOf? viewer.state.summaries job).getD .unspecified)
    sequel

def enterAnnounced (challenge target : Option String) : List Announcement :=
  match challenge.filter (· ≠ "") with
  | none => saying none [.failed "no challenge id given"]
  | some id =>
    saying none [.challengeLoadStarted] ++
      match answers.challenge id with
      | .error fault => saying fault (challengeSetback fault)
      | .ok found =>
        saying none [.challengeLoaded found] ++ showListAnnounced (answers.list id) ++
          match target with
          | none => saying none [.challengeLoadFinished]
          | some job =>
            saying none [.listExpanded] ++ saying none
              ((viewer.readied answers id found).openJobEvents job none [.challengeLoadFinished])

end

def turnAnnounced (viewer : Viewer) (id : SessionId) (step : Session → List Announcement) :
    List Announcement :=
  match viewer.session? id with
  | none => []
  | some session => step session

/-- What an action tells the screen, in this order. -/
def announced (viewer : Viewer) (answers : Answers) : Action → List Announcement
  | .toggle job status => saying none (viewer.toggleEvents job status [])
  | .openJob job known => saying none (viewer.openJobEvents job known [])
  | .enter challenge target => viewer.enterAnnounced answers challenge target
  | .refresh =>
    match viewer.state.challenge with
    | none => []
    | some challenge => showListAnnounced (answers.list challenge.id)
  | .toggleList => saying none [.listToggled]
  | .cancel => if viewer.current.isSome then saying none [.sessionCancelled] else []
  | .publish event => saying none [event]
  | .openStream id result => viewer.turnAnnounced id fun session =>
    match session.stage with
    | .opening => openedAnnounced id session result
    | _ => []
  | .receive id item => viewer.turnAnnounced id fun session =>
    match session.stage with
    | .receiving _ => viewer.receivedAnnounced answers id session item
    | _ => []
  | .answer id result => viewer.turnAnnounced id fun session =>
    match session.stage with
    | .fetching tick => viewer.polledAnnounced answers id session tick result
    | .loading => loadedAnnounced id session result ++ saying none session.sequel
    | _ => []
  | .listed id result => viewer.turnAnnounced id fun session =>
    match session.stage with
    | .listing next => listAnnounced result ++ saying none (goOnEvents id next)
    | _ => []
  | .join | .drop | .setChallenge _ | .setViewport _ | .start _ | .wake _ | .notice _ => []

/-! ## The screen after some announcements -/

def Announces (viewer : Viewer) (announced : List Announcement) (after : Viewer) : Prop :=
  after.state = viewer.state.hearing announced

variable {viewer middle after : Viewer} {id : SessionId} {session : Session} {answers : Answers}
  {earlier later : List Announcement}

namespace Announces

theorem of_state (same : after.state = viewer.state) : Announces viewer [] after :=
  same

theorem trans (first : Announces viewer earlier middle) (second : Announces middle later after) :
    Announces viewer (earlier ++ later) after := by
  unfold Announces at first second ⊢
  rw [second, first, ViewState.hearing_append]

theorem dispatch (fault : Option Fault) (event : ViewEvent) :
    Announces viewer (saying fault [event]) (viewer.dispatch event) :=
  dispatch_state viewer event

theorem dispatchAll (fault : Option Fault) (events : List ViewEvent) :
    Announces viewer (saying fault events) (viewer.dispatchAll events) := by
  induction events generalizing viewer with
  | nil => rfl
  | cons event rest ih => exact (Announces.dispatch fault event).trans ih

theorem state_eq (agrees : Announces viewer earlier middle) (same : after.state = middle.state) :
    Announces viewer earlier after :=
  same.trans agrees

theorem conclude (fault : Option Fault) (outcome : Outcome) :
    Announces viewer (saying fault (endEvents id outcome)) (viewer.conclude id outcome) := by
  unfold endEvents Viewer.conclude
  dsimp only
  split
  · exact .of_state rfl
  · have told : Announces (viewer.setStage id (.over outcome)) (saying fault [.sessionFinished id])
        ((viewer.setStage id (.over outcome)).dispatch (.sessionFinished id)) :=
      .dispatch fault _
    exact told

theorem goOn (next : Option Nat) :
    Announces viewer (saying none (goOnEvents id next)) (viewer.goOn id next) := by
  cases next with
  | some tick => exact .of_state rfl
  | none => exact .conclude none .completed

theorem askList (challenge : String) :
    Announces viewer (saying none [.listLoadStarted]) (viewer.askList challenge) :=
  Announces.dispatch none .listLoadStarted

theorem listAnswered (result : Except Fault (List Summary)) :
    Announces viewer (listAnnounced result) (viewer.listAnswered result).1 := by
  cases result with
  | ok summaries => exact .dispatch none _
  | error fault => exact .dispatch (some fault) _

theorem showList (challenge : String) :
    Announces viewer (showListAnnounced (answers.list challenge))
      (viewer.showList answers challenge) := by
  have asked : Announces viewer _ (viewer.askList challenge) := .askList challenge
  unfold Viewer.showList loadList Viewer.listAnswered showListAnnounced
  cases answers.list challenge with
  | ok summaries => exact asked.trans (.dispatch none _)
  | error fault => exact asked.trans (.dispatchAll (some fault) listSetback)

theorem refreshFor (next : Option Nat) :
    Announces viewer (refreshAnnounced answers id session next)
      (viewer.refreshFor answers id session next) := by
  unfold Viewer.refreshFor refreshAnnounced
  cases session.challenge with
  | none => exact .goOn next
  | some challenge =>
    dsimp only
    split
    · exact .goOn next
    · split
      · exact (Announces.askList challenge).state_eq rfl
      · exact ((Announces.askList challenge).trans (.listAnswered _)).trans (.goOn next)

theorem opened (result : Except Fault StreamId) :
    Announces viewer (openedAnnounced id session result) (viewer.opened id session result) := by
  unfold Viewer.opened openedAnnounced
  split
  · exact .of_state rfl
  · cases result with
    | ok stream => exact .of_state rfl
    | error fault => exact .conclude (some fault) _

theorem scroll (agrees : Announces viewer earlier middle) (teller : Session) :
    Announces viewer earlier (middle.scroll teller) :=
  agrees.state_eq (by unfold Viewer.scroll; split <;> rfl)

theorem update {event : ViewEvent} (goes : Viewer → Viewer) {next : List Announcement}
    (follows : ∀ shown, Announces viewer (saying none [event]) shown →
      Announces viewer (saying none [event] ++ next) (goes shown)) :
    Announces viewer (viewer.updateAnnounced id session event next)
      (match viewer.publish? session event with
        | none => viewer.conclude id .superseded
        | some shown => goes shown) := by
  unfold updateAnnounced publish?
  split
  · exact follows _ (.dispatch none event)
  · exact .conclude none .superseded

theorem received (item : StreamItem) :
    Announces viewer (viewer.receivedAnnounced answers id session item)
      (viewer.received answers id session item) := by
  unfold Viewer.received receivedAnnounced
  split
  · exact .of_state rfl
  · match item with
    | none => exact .conclude none .ended
    | some (.error fault) => exact .conclude (some fault) _
    | some (.ok chunk) =>
      refine update (fun shown =>
        let shown := if chunk.line = "" then shown else shown.scroll session
        if chunk.isComplete then shown.refreshFor answers id session none else shown) ?_
      intro shown told
      have seen : Announces viewer (saying none [.chunkReceived id chunk.line chunk.status])
          (if chunk.line = "" then shown else shown.scroll session) := by
        split
        · exact told
        · exact told.scroll session
      dsimp only
      split
      · exact seen.trans (.refreshFor none)
      · exact seen.trans (.of_state rfl)

theorem polled (tick : Nat) (result : Except Fault Snapshot) :
    Announces viewer (viewer.polledAnnounced answers id session tick result)
      (viewer.polled answers id session tick result) := by
  unfold Viewer.polled polledAnnounced
  split
  · exact .of_state rfl
  · cases result with
    | error fault => exact .of_state rfl
    | ok snapshot =>
      refine update (fun shown =>
        let shown := shown.scroll session
        let next := if snapshot.status.isTerminal then none else some (tick + 1)
        if 0 < tick ∧ session.pollPlan.2 then shown.refreshFor answers id session next
        else shown.goOn id next) ?_
      intro shown told
      dsimp only
      split
      · exact (told.scroll session).trans (.refreshFor _)
      · exact (told.scroll session).trans (.goOn _)

theorem listed (next : Option Nat) (result : Except Fault (List Summary)) :
    Announces viewer (listAnnounced result ++ saying none (goOnEvents id next))
      (viewer.listed id next result) :=
  (Announces.listAnswered result).trans (.goOn next)

theorem publish (uncancelled : session.isCancelled = false) (fault : Option Fault)
    (event : ViewEvent) :
    Announces viewer (saying fault [event]) ((viewer.publish? session event).getD viewer) := by
  unfold publish?
  rw [uncancelled]
  cases accepted : viewer.state.accepts event with
  | true => exact .dispatch fault event
  | false =>
    have refused : viewer.state.reduce event = viewer.state :=
      ViewState.reduce_of_not_accepts accepted
    exact refused.symm

theorem showLoaded (result : Except Fault Snapshot) :
    Announces viewer (loadedAnnounced id session result)
      (viewer.showLoaded id session result).1 := by
  unfold Viewer.showLoaded loadedAnnounced
  cases result with
  | ok snapshot =>
    cases cancelled : session.isCancelled with
    | true =>
      simp only [publish?, cancelled]
      exact .dispatch none _
    | false => exact (Announces.publish cancelled none _).trans (.dispatch none _)
  | error fault =>
    dsimp only
    split
    · exact .of_state rfl
    · rename_i heard
      have uncancelled : session.isCancelled = false := by simp_all
      unfold loadSetback
      split
      · exact (Announces.publish uncancelled (some fault) _).trans (.dispatch (some fault) _)
      · exact (Announces.publish uncancelled (some fault) _).trans (.dispatch (some fault) _)

theorem loaded (result : Except Fault Snapshot) :
    Announces viewer (loadedAnnounced id session result ++ saying none session.sequel)
      (viewer.loaded id session result) := by
  rw [loaded_eq]
  have shown : Announces viewer (loadedAnnounced id session result)
      ((viewer.showLoaded id session result).1.setStage id
        (.over (viewer.showLoaded id session result).2) |>.release id) :=
    (Announces.showLoaded result).state_eq (release_state _ _)
  exact shown.trans (.dispatchAll none session.sequel)

theorem toggle (job : String) (status : Status) (sequel : List ViewEvent) :
    Announces viewer (saying none (viewer.toggleEvents job status sequel))
      (viewer.toggle job status sequel).1 := by
  have stopped : Announces viewer [] viewer.stop := .of_state (stop_state viewer)
  unfold toggleEvents
  split
  · rename_i displayed
    rw [toggle_of_displayed displayed]
    exact stopped.trans (.dispatchAll none (.logClosed :: sequel))
  · rename_i hidden
    have opened : Announces viewer
        (saying none [.sessionOpened (viewer.sessions.length + 1) job status
          (Plan.forStatus? viewer.config status).isSome])
        (viewer.stop.takeOver job status sequel) := by
      have taken := takeOver_state viewer.stop job status sequel
      rw [stop_config, stop_sessions_length] at taken
      exact stopped.trans taken
    cases planned : Plan.forStatus? viewer.config status with
    | some plan =>
      rw [planned] at opened
      rw [toggle_of_planned (by simpa using hidden) planned]
      exact opened.trans (.dispatchAll none sequel)
    | none =>
      rw [planned] at opened
      rw [toggle_of_unplanned (by simpa using hidden) planned]
      exact opened

theorem openJob (job : String) (known : Option Status) (sequel : List ViewEvent) :
    Announces viewer (saying none (viewer.openJobEvents job known sequel))
      (viewer.openJob job known sequel).1 :=
  .toggle job _ sequel

theorem enter (challenge target : Option String) :
    Announces viewer (viewer.enterAnnounced answers challenge target)
      (viewer.enter answers challenge target) := by
  have asked (id : String) : Announces viewer (saying none [.challengeLoadStarted])
      ((viewer.dispatch .challengeLoadStarted).call (.challenge id)) :=
    .dispatch none _
  unfold enterAnnounced
  cases given : challenge.filter (· ≠ "") with
  | none =>
    simp only [Viewer.enter, given]
    exact .dispatch none _
  | some id =>
    cases answered : answers.challenge id with
    | error fault =>
      simp only [Viewer.enter, given, answered]
      exact (asked id).trans (.dispatchAll (some fault) (challengeSetback fault))
    | ok found =>
      have introduced : Announces viewer
          (saying none [.challengeLoadStarted] ++ saying none [.challengeLoaded found])
          (viewer.introduced id found) :=
        (asked id).trans (.dispatch none _)
      have listed : Announces viewer _ ((viewer.introduced id found).showList answers id) :=
        introduced.trans (.showList id)
      cases target with
      | none =>
        have entered : viewer.enter answers challenge none =
            ((viewer.introduced id found).showList answers id).dispatch .challengeLoadFinished := by
          simp only [Viewer.enter, given, answered]
          rfl
        have finished := listed.trans (.dispatch none .challengeLoadFinished)
        rw [entered]
        simpa only [answered, List.append_assoc] using finished
      | some job =>
        have readied : Announces viewer _ (viewer.readied answers id found) :=
          listed.trans (.dispatch none .listExpanded)
        have opened := readied.trans (.openJob job none [.challengeLoadFinished])
        rw [enter_eq given answered]
        simpa only [answered, List.append_assoc] using opened

theorem turn {step : Session → Viewer} {announced : Session → List Announcement}
    (agrees : ∀ session, Announces viewer (announced session) (step session)) :
    Announces viewer (viewer.turnAnnounced id announced) (viewer.turn id step) := by
  unfold turnAnnounced Viewer.turn
  cases viewer.session? id with
  | none => exact .of_state rfl
  | some session => exact agrees session

theorem turn_of_silent {step : Session → Viewer}
    (silent : ∀ session, (step session).state = viewer.state) :
    Announces viewer [] (viewer.turn id step) :=
  turn_cases (motive := Announces viewer []) rfl fun session _ => silent session

theorem join : Announces viewer [] viewer.join.1 := by
  unfold Viewer.join
  split
  · exact .of_state rfl
  · split
    · split <;> exact .of_state rfl
    · exact .of_state rfl

theorem refresh : Announces viewer (viewer.announced answers .refresh) (viewer.refresh answers) := by
  simp only [Viewer.refresh, announced]
  cases viewer.state.challenge with
  | none => exact .of_state rfl
  | some challenge => exact .showList challenge.id

theorem cancel : Announces viewer (viewer.announced answers .cancel) viewer.cancel := by
  simp only [Viewer.cancel, announced]
  cases viewer.current with
  | none => exact .of_state rfl
  | some slot =>
    have stopped : Announces viewer [] viewer.stop := .of_state (stop_state viewer)
    exact stopped.trans (.dispatch none .sessionCancelled)

theorem drop : Announces viewer (viewer.announced answers .drop) (viewer.act answers .drop) := by
  simp only [act, announced]
  split
  · exact .of_state rfl
  · exact .of_state (stop_state viewer)

end Announces

theorem begin_state (session : Session) : (viewer.begin id session).state = viewer.state := by
  unfold begin
  split
  · rfl
  · split <;> rfl

theorem rested_state (session : Session) (tick : Nat) :
    (viewer.rested id session tick).state = viewer.state := by
  unfold rested
  split <;> rfl

theorem act_announces (viewer : Viewer) (answers : Answers) (action : Action) :
    Announces viewer (viewer.announced answers action) (viewer.act answers action) := by
  cases action with
  | toggle job status => exact .toggle job status []
  | openJob job known => exact .openJob job known []
  | enter challenge target => exact .enter challenge target
  | refresh => exact .refresh
  | toggleList => exact .dispatch none _
  | cancel => exact .cancel
  | join => exact .join
  | drop => exact .drop
  | setChallenge | setViewport => exact .of_state rfl
  | publish event => exact .dispatch none event
  | start id =>
    refine .turn_of_silent fun session => ?_
    cases session.stage with
    | ready => exact begin_state session
    | _ => rfl
  | openStream id result =>
    refine .turn fun session => ?_
    cases session.stage with
    | opening => exact .opened result
    | _ => exact .of_state rfl
  | receive id item =>
    refine .turn fun session => ?_
    cases session.stage with
    | receiving => exact .received item
    | _ => exact .of_state rfl
  | answer id result =>
    refine .turn fun session => ?_
    cases session.stage with
    | fetching tick => exact .polled tick result
    | loading => exact .loaded result
    | _ => exact .of_state rfl
  | wake id =>
    refine .turn_of_silent fun session => ?_
    cases session.stage with
    | resting tick => exact rested_state session tick
    | _ => rfl
  | notice id =>
    refine .turn_of_silent fun session => ?_
    cases session.stage with
    | opening | receiving | resting =>
      dsimp only
      split <;> rfl
    | _ => rfl
  | listed id result =>
    refine .turn fun session => ?_
    cases session.stage with
    | listing next => exact .listed next result
    | _ => exact .of_state rfl

end Viewer

/-! ## Setbacks leave the screen alone -/

def ViewEvent.sparesContents : ViewEvent → Bool
  | challengeLoadStarted | challengeLoadFinished | listLoadStarted | listLoadFinished | listToggled
  | listExpanded | failed _ | sessionFinished _ | sessionCancelled => true
  | _ => false

/-- The challenge and the list stay, and so does a log that is on screen. Where there is none, at
most the placeholder may come. -/
structure ViewState.Spared (placeholder : Option SelectedLog) (before after : ViewState) :
    Prop where
  challenge : after.challenge = before.challenge
  summaries : after.summaries = before.summaries
  selected : after.selected = before.selected ∨
    before.selected = none ∧ after.selected = placeholder

namespace ViewState.Spared

variable {placeholder : Option SelectedLog} {state middle after : ViewState} {event : ViewEvent}

theorem refl (state : ViewState) : Spared placeholder state state :=
  ⟨rfl, rfl, .inl rfl⟩

theorem trans (first : Spared placeholder state middle) (second : Spared placeholder middle after) :
    Spared placeholder state after := by
  refine ⟨second.challenge.trans first.challenge, second.summaries.trans first.summaries, ?_⟩
  rcases first.selected with same | ⟨bare, came⟩
  · rw [← same]
    exact second.selected
  · rcases second.selected with same | ⟨-, came⟩
    · exact .inr ⟨bare, same.trans ‹_›⟩
    · exact .inr ⟨bare, came⟩

theorem reduce (spares : event.sparesContents) : Spared placeholder state (state.reduce event) := by
  unfold ViewState.reduce
  split
  · cases event <;> first | exact ⟨rfl, rfl, .inl rfl⟩ | cases spares
  · exact .refl state

theorem hearing {announced : List Announcement}
    (each : ∀ earlier announcement later, announced = earlier ++ announcement :: later →
      Spared placeholder (state.hearing earlier)
        ((state.hearing earlier).reduce announcement.event)) :
    Spared placeholder state (state.hearing announced) := by
  induction announced generalizing state with
  | nil => exact .refl state
  | cons announcement rest ih =>
    have first : Spared placeholder state (state.reduce announcement.event) :=
      each [] announcement rest rfl
    refine first.trans (ih fun earlier other later split => ?_)
    exact each (announcement :: earlier) other later (by rw [split, List.cons_append])

end ViewState.Spared

def Harmless (announced : List Announcement) : Prop :=
  ∀ announcement ∈ announced, announcement.fault.isSome → announcement.event.sparesContents

namespace Harmless

variable {earlier later : List Announcement}

theorem append (first : Harmless earlier) (second : Harmless later) :
    Harmless (earlier ++ later) := by
  intro announcement member
  exact (List.mem_append.mp member).elim (first announcement) (second announcement)

theorem of_none (events : List ViewEvent) : Harmless (saying none events) := by
  intro announcement member responds
  obtain ⟨event, -, rfl⟩ := List.mem_map.mp member
  cases responds

theorem of_events (fault : Option Fault) {events : List ViewEvent}
    (spare : ∀ event ∈ events, event.sparesContents) : Harmless (saying fault events) := by
  intro announcement member responds
  obtain ⟨event, listed, rfl⟩ := List.mem_map.mp member
  exact spare event listed

theorem nil : Harmless [] :=
  of_none []

end Harmless

namespace Viewer

variable {viewer : Viewer} {id : SessionId} {session : Session} {answers : Answers}
  {action : Action}

theorem spares_of_challengeSetback {fault : Fault} :
    ∀ event ∈ challengeSetback fault, event.sparesContents := by
  simp [challengeSetback, ViewEvent.sparesContents]

theorem spares_of_listSetback : ∀ event ∈ listSetback, event.sparesContents := by
  simp [listSetback, ViewEvent.sparesContents]

theorem spares_of_endEvents {outcome : Outcome} :
    ∀ event ∈ endEvents id outcome, event.sparesContents := by
  unfold endEvents
  split <;> simp [ViewEvent.sparesContents]

theorem harmless_listAnnounced (result : Except Fault (List Summary)) :
    Harmless (listAnnounced result) := by
  cases result with
  | ok summaries => exact .of_none _
  | error fault => exact .of_events _ (by simp [ViewEvent.sparesContents])

theorem harmless_showListAnnounced (result : Except Fault (List Summary)) :
    Harmless (showListAnnounced result) := by
  refine .append (.of_none _) ?_
  cases result with
  | ok summaries => exact .of_none _
  | error fault => exact .of_events _ spares_of_listSetback

theorem harmless_refreshAnnounced (next : Option Nat) :
    Harmless (refreshAnnounced answers id session next) := by
  unfold refreshAnnounced
  cases session.challenge with
  | none => exact .of_none _
  | some challenge =>
    dsimp only
    split
    · exact .of_none _
    · split
      · exact .of_none _
      · exact ((Harmless.of_none _).append (harmless_listAnnounced _)).append (.of_none _)

theorem harmless_openedAnnounced (result : Except Fault StreamId) :
    Harmless (openedAnnounced id session result) := by
  unfold openedAnnounced
  split
  · exact .nil
  · cases result with
    | ok stream => exact .nil
    | error fault => exact .of_events _ spares_of_endEvents

theorem harmless_updateAnnounced {event : ViewEvent} {next : List Announcement}
    (harmless : Harmless next) : Harmless (viewer.updateAnnounced id session event next) := by
  unfold updateAnnounced
  split
  · exact (Harmless.of_none _).append harmless
  · exact .of_none _

theorem harmless_receivedAnnounced (item : StreamItem) :
    Harmless (viewer.receivedAnnounced answers id session item) := by
  unfold receivedAnnounced
  split
  · exact .nil
  · match item with
    | none => exact .of_none _
    | some (.error fault) => exact .of_events _ spares_of_endEvents
    | some (.ok chunk) =>
      apply harmless_updateAnnounced
      split
      · exact harmless_refreshAnnounced none
      · exact .nil

theorem harmless_polledAnnounced (tick : Nat) (result : Except Fault Snapshot) :
    Harmless (viewer.polledAnnounced answers id session tick result) := by
  unfold polledAnnounced
  split
  · exact .nil
  · cases result with
    | error fault => exact .nil
    | ok snapshot =>
      apply harmless_updateAnnounced
      split
      · exact harmless_refreshAnnounced _
      · exact .of_none _

theorem harmless_enterAnnounced (challenge target : Option String) :
    Harmless (viewer.enterAnnounced answers challenge target) := by
  unfold enterAnnounced
  cases challenge.filter (· ≠ "") with
  | none => exact .of_none _
  | some id =>
    refine .append (.of_none _) ?_
    cases answers.challenge id with
    | error fault => exact .of_events _ spares_of_challengeSetback
    | ok found =>
      refine .append (.append (.of_none _) (harmless_showListAnnounced _)) ?_
      cases target with
      | none => exact .of_none _
      | some job => exact .append (.of_none _) (.of_none _)

theorem harmless_turnAnnounced {announced : Session → List Announcement}
    (harmless : ∀ session, viewer.session? id = some session → Harmless (announced session)) :
    Harmless (viewer.turnAnnounced id announced) := by
  unfold turnAnnounced
  cases found : viewer.session? id with
  | none => exact .nil
  | some session => exact harmless session found

theorem harmless_announced
    (unloaded : ∀ id fault session, action = .answer id (.error fault) →
      viewer.session? id = some session → session.stage ≠ .loading) :
    Harmless (viewer.announced answers action) := by
  cases action with
  | toggle | openJob | toggleList | publish => exact .of_none _
  | enter challenge target => exact harmless_enterAnnounced challenge target
  | refresh =>
    simp only [announced]
    cases viewer.state.challenge with
    | none => exact .nil
    | some challenge => exact harmless_showListAnnounced _
  | cancel =>
    simp only [announced]
    split
    · exact .of_none _
    · exact .nil
  | openStream id result =>
    refine harmless_turnAnnounced fun session found => ?_
    cases session.stage with
    | opening => exact harmless_openedAnnounced result
    | _ => exact .nil
  | receive id item =>
    refine harmless_turnAnnounced fun session found => ?_
    cases session.stage with
    | receiving => exact harmless_receivedAnnounced item
    | _ => exact .nil
  | answer id result =>
    refine harmless_turnAnnounced fun session found => ?_
    cases standing : session.stage with
    | fetching tick => exact harmless_polledAnnounced tick result
    | loading =>
      cases result with
      | ok snapshot => exact .append (.append (.of_none _) (.of_none _)) (.of_none _)
      | error fault => exact absurd standing (unloaded id fault session rfl found)
    | _ => exact .nil
  | listed id result =>
    refine harmless_turnAnnounced fun session found => ?_
    cases session.stage with
    | listing next => exact .append (harmless_listAnnounced result) (.of_none _)
    | _ => exact .nil
  | join | drop | setChallenge | setViewport | start | wake | notice => exact .nil

/-! ## The answer to a single load -/

def placeholder? (viewer : Viewer) : Action → Option SelectedLog
  | .answer id (.error (.notFound _)) =>
    (viewer.session? id).bind fun session =>
      if session.stage = .loading then
        some { job := session.job, content := "", status := .unspecified }
      else none
  | _ => none

theorem spared_of_loadSetback {may : Leeway} (fault : Fault) (coherent : Coherent may viewer)
    (found : viewer.session? id = some session) (loading : session.stage = .loading)
    (uncancelled : session.isCancelled = false) :
    ∃ failed, loadSetback id session.job fault = [failed, .sessionFinished id] ∧
      ViewState.Spared (viewer.placeholder? (.answer id (.error fault))) viewer.state
        (viewer.state.reduce failed) := by
  have running : session.isRunning := Session.isRunning_of_loading loading uncancelled
  obtain ⟨shows, -⟩ := coherent.front_of_isRunning found running
  have active : viewer.state.active = some id := shows.active
  have bare : viewer.state.selected = none := by
    have job := shows.job
    rw [(coherent.fits found).unplanned loading] at job
    simpa [ViewState.logView] using job
  have reduced (message : String) (showEmpty : Bool) :
      viewer.state.reduce (.snapshotFailed id session.job message showEmpty) =
        viewer.state.apply (.snapshotFailed id session.job message showEmpty) :=
    ViewState.reduce_of_accepts (by simp [ViewState.accepts_snapshotFailed, active])
  cases fault with
  | notFound what =>
    have unknown : (Fault.notFound what).isNotFound := rfl
    refine ⟨_, rfl, ?_⟩
    rw [if_pos unknown, reduced]
    refine ⟨rfl, rfl, .inr ⟨bare, ?_⟩⟩
    simp [placeholder?, found, loading, ViewState.apply]
  | _ =>
    refine ⟨_, rfl, ?_⟩
    rw [if_neg (by simp [Fault.isNotFound]), reduced]
    exact ⟨rfl, rfl, .inl bare.symm⟩

theorem spared_of_responding {may : Leeway} (coherent : Coherent may viewer)
    {earlier later : List Announcement} {announcement : Announcement}
    (split : viewer.announced answers action = earlier ++ announcement :: later)
    (responds : announcement.fault.isSome) :
    ViewState.Spared (viewer.placeholder? action) (viewer.state.hearing earlier)
      ((viewer.state.hearing earlier).reduce announcement.event) := by
  have ofHarmless (harmless : Harmless (viewer.announced answers action)) :
      announcement.event.sparesContents :=
    harmless announcement (by simp [split]) responds
  by_cases unloaded : ∀ id fault session, action = .answer id (.error fault) →
      viewer.session? id = some session → session.stage ≠ .loading
  · exact .reduce (ofHarmless (harmless_announced unloaded))
  · simp only [Classical.not_forall, ne_eq, Classical.not_not, exists_prop] at unloaded
    obtain ⟨id, fault, session, rfl, found, loading⟩ := unloaded
    have told : viewer.announced answers (.answer id (.error fault)) =
        loadedAnnounced id session (.error fault) ++ saying none session.sequel := by
      simp [announced, turnAnnounced, found, loading]
    unfold loadedAnnounced at told
    dsimp only at told
    split at told
    · exact .reduce (ofHarmless (told ▸ Harmless.of_none session.sequel))
    · rename_i heard
      have uncancelled : session.isCancelled = false := by simp_all
      obtain ⟨failed, setback, spared⟩ :=
        spared_of_loadSetback fault coherent found loading uncancelled
      have restHarmless :
          Harmless (saying fault [.sessionFinished id] ++ saying none session.sequel) :=
        .append (.of_events _ (by simp [ViewEvent.sparesContents])) (.of_none _)
      rw [setback] at told
      cases earlier with
      | nil =>
        obtain ⟨rfl, -⟩ := List.cons.inj (split.symm.trans told)
        exact spared
      | cons first earlier =>
        have rest : earlier ++ announcement :: later =
            saying fault [.sessionFinished id] ++ saying none session.sequel :=
          (List.cons.inj (split.symm.trans told)).2
        have member : announcement ∈ earlier ++ announcement :: later := by simp
        rw [rest] at member
        exact .reduce (restHarmless announcement member responds)

end Viewer

/-- The fault that an action brings as the answer to a call. -/
def Action.fault? : Action → Option Fault
  | openStream _ (.error fault) | receive _ (some (.error fault)) | answer _ (.error fault)
  | listed _ (.error fault) => some fault
  | _ => none

namespace Viewer

variable {viewer : Viewer} {answers : Answers} {action : Action}

theorem responds_or_spares (belongs : viewer.Belongs fun _ => True)
    (failed : action.fault?.isSome) :
    ∀ announcement ∈ viewer.announced answers action,
      announcement.fault.isSome ∨ announcement.event.sparesContents := by
  have ofFault (fault : Fault) (events : List ViewEvent) :
      ∀ announcement ∈ saying fault events,
        announcement.fault.isSome ∨ announcement.event.sparesContents := by
    simp [saying]
  have of_events {events : List ViewEvent} (spare : ∀ event ∈ events, event.sparesContents) :
      ∀ announcement ∈ saying none events,
        announcement.fault.isSome ∨ announcement.event.sparesContents := by
    simpa [saying] using spare
  cases action with
  | openStream id result =>
    cases result with
    | ok stream => cases failed
    | error fault =>
      simp only [announced, turnAnnounced, openedAnnounced]
      split
      · simp
      · split
        · split
          · simp
          · exact ofFault fault _
        · simp
  | receive id item =>
    match item with
    | none | some (.ok _) => cases failed
    | some (.error fault) =>
      simp only [announced, turnAnnounced, receivedAnnounced]
      split
      · simp
      · split
        · split
          · simp
          · exact ofFault fault _
        · simp
  | answer id result =>
    cases result with
    | ok snapshot => cases failed
    | error fault =>
      simp only [announced, turnAnnounced]
      cases found : viewer.session? id with
      | none => simp
      | some session =>
        dsimp only
        split
        · simp [polledAnnounced]
        · have plain := (belongs.sessions found).sequel
          refine List.forall_mem_append.mpr ⟨?_, of_events fun event member => ?_⟩
          · unfold loadedAnnounced
            dsimp only
            split
            · simp
            · exact ofFault fault _
          · rw [plain event member]
            rfl
        · simp
  | listed id result =>
    cases result with
    | ok summaries => cases failed
    | error fault =>
      simp only [announced, turnAnnounced]
      split
      · simp
      · split
        · rename_i next _
          refine List.forall_mem_append.mpr ⟨ofFault fault _, of_events ?_⟩
          cases next with
          | none => exact spares_of_endEvents
          | some tick => simp [goOnEvents]
        · simp
  | _ => cases failed

theorem failed_call_spares_screen (config : ViewerConfig) (steps : List (Answers × Action))
    (proper : ∀ step ∈ steps, step.2.isProper) (answers : Answers) (action : Action) :
    let viewer := Viewer.run { config } steps
    let announced := viewer.announced answers action
    (viewer.act answers action).state = viewer.state.hearing announced ∧
    (∀ earlier announcement later, announced = earlier ++ announcement :: later →
      announcement.fault.isSome →
      ViewState.Spared (viewer.placeholder? action) (viewer.state.hearing earlier)
        ((viewer.state.hearing earlier).reduce announcement.event)) ∧
    (action.fault?.isSome →
      ViewState.Spared (viewer.placeholder? action) viewer.state
        (viewer.act answers action).state) ∧
    -- A request of the host that has to wait publishes its setbacks one by one.
    (∀ fault, ∀ event ∈ challengeSetback fault ++ listSetback,
      ViewState.Spared none viewer.state (viewer.act answers (.publish event)).state) := by
  intro viewer announced
  have coherent : Coherent .full viewer :=
    coherent_run fun step member => .full (proper step member)
  have belongs : viewer.Belongs fun _ => True := (belongs_start config).run_of_any steps
  have agrees : (viewer.act answers action).state = viewer.state.hearing announced :=
    act_announces viewer answers action
  refine ⟨agrees, fun earlier announcement later split responds => ?_, fun failed => ?_, ?_⟩
  · exact spared_of_responding coherent split responds
  · rw [agrees]
    refine .hearing fun earlier announcement later split => ?_
    have member : announcement ∈ announced := by
      rw [split]
      exact List.mem_append_right earlier (List.mem_cons_self ..)
    rcases responds_or_spares belongs failed announcement member with responds | spares
    · exact spared_of_responding coherent split responds
    · exact .reduce spares
  · intro fault event member
    have spares : event.sparesContents :=
      (List.mem_append.mp member).elim (spares_of_challengeSetback event)
        (spares_of_listSetback event)
    have published : (viewer.act answers (.publish event)).state = viewer.state.reduce event :=
      dispatch_state viewer event
    rw [published]
    exact .reduce spares

theorem unknown_job_spares_screen :
    let steps : List (Answers × Action) := [(plainAnswers, .enter (some "c1") (some "c1")),
      (plainAnswers, .start 1), (plainAnswers, .openStream 1 (.ok 7)),
      (plainAnswers, .receive 1 (some (.ok ⟨"log", .building, false⟩))),
      (plainAnswers, .toggle "old" .success)]
    let viewer := Viewer.run {} steps
    let lost : Action := .answer 2 (.error (.notFound "old"))
    lost.fault?.isSome ∧
    ViewState.Spared (some ⟨"old", "", .unspecified⟩) viewer.state
      (viewer.act plainAnswers lost).state := by
  intro steps viewer lost
  have proper : ∀ step ∈ steps, step.2.isProper := by simp [steps, Action.isProper]
  have failed : lost.fault?.isSome := rfl
  obtain ⟨-, -, whole, -⟩ := failed_call_spares_screen {} steps proper plainAnswers lost
  exact ⟨failed, whole failed⟩

end Viewer

end BuildWatch
