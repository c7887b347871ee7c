import BuildWatch.Follow.Viewer
import BuildWatch.Proofs.View.LogView

namespace BuildWatch.Viewer

variable (viewer : Viewer) (id other : SessionId) (change : Session → Session)

def held? : Option (SessionId × String) :=
  viewer.current.map fun slot => (slot.session, slot.job)

theorem current_session : viewer.current.map Slot.session = viewer.held?.map Prod.fst := by
  simp [held?, Function.comp_def]

theorem activeJob_eq_some {viewer : Viewer} {job : String} : viewer.activeJob = some job ↔
    ∃ id, viewer.held? = some (id, job) ∧ viewer.state.active = some id := by
  unfold activeJob held?
  cases viewer.current with
  | none => simp
  | some slot =>
    simp only [Option.bind_some, Option.map_some, Option.some.injEq, Prod.mk.injEq,
      Option.ite_none_right_eq_some, ViewStore.isActive, beq_iff_eq, state]
    constructor
    · rintro ⟨active, rfl⟩
      exact ⟨slot.session, ⟨rfl, rfl⟩, active⟩
    · rintro ⟨id, ⟨rfl, rfl⟩, active⟩
      exact ⟨active, rfl⟩

/-! ## Looking sessions up -/

theorem session?_congr {viewer after : Viewer} (same : after.sessions = viewer.sessions) :
    after.session? id = viewer.session? id := by
  cases id <;> simp [session?, same]

theorem session?_bounds {viewer : Viewer} {id : SessionId} {session : Session}
    (found : viewer.session? id = some session) : 0 < id ∧ id ≤ viewer.sessions.length := by
  cases id with
  | zero => simp [session?] at found
  | succ n =>
    have bound : n < viewer.sessions.length := (List.getElem?_eq_some_iff.mp found).1
    exact ⟨Nat.succ_pos n, bound⟩

theorem session?_mem {viewer : Viewer} {id : SessionId} {session : Session}
    (found : viewer.session? id = some session) : session ∈ viewer.sessions := by
  cases id with
  | zero => simp [session?] at found
  | succ n => exact List.mem_of_getElem? found

theorem session?_modify : (viewer.modify id change).session? other =
    (viewer.session? other).map fun session => if other = id then change session else session := by
  cases id <;> cases other <;> simp [session?, modify, List.getElem?_modify]
  grind

@[simp] theorem modify_sessions_length :
    (viewer.modify id change).sessions.length = viewer.sessions.length := by
  cases id <;> simp [modify]

theorem session?_setStage {stage : Stage} : (viewer.setStage id stage).session? other =
    (viewer.session? other).map fun session =>
      if other = id then { session with stage } else session :=
  session?_modify viewer id other _

theorem session?_setStage_self {viewer : Viewer} {id : SessionId} {session : Session}
    {stage : Stage} (found : viewer.session? id = some session) :
    (viewer.setStage id stage).session? id = some { session with stage } := by
  simp [session?_setStage, found]

@[simp] theorem setStage_sessions_length {stage : Stage} :
    (viewer.setStage id stage).sessions.length = viewer.sessions.length :=
  modify_sessions_length viewer id _

/-! ## Events -/

section
variable (event : ViewEvent) (events : List ViewEvent)

@[simp] theorem dispatch_state : (viewer.dispatch event).state = viewer.state.reduce event :=
  ViewStore.dispatch_state viewer.store event

theorem dispatch_of_not_accepts (refused : viewer.state.accepts event = false) :
    viewer.dispatch event = viewer := by
  rw [dispatch, ViewStore.dispatch, ViewStore.send_of_not_accepts viewer.store refused]

@[simp] theorem dispatch_sessions : (viewer.dispatch event).sessions = viewer.sessions := rfl

theorem dispatchAll_induction {motive : Viewer → Prop}
    (step : ∀ viewer, ∀ event ∈ events, motive viewer → motive (viewer.dispatch event))
    (start : motive viewer) : motive (viewer.dispatchAll events) := by
  induction events generalizing viewer with
  | nil => exact start
  | cons event rest ih =>
    exact ih (viewer.dispatch event) (fun viewer other member =>
      step viewer other (List.mem_cons_of_mem event member)) (step viewer event (by simp) start)

@[simp] theorem dispatchAll_calls : (viewer.dispatchAll events).calls = viewer.calls :=
  dispatchAll_induction (motive := fun after => after.calls = viewer.calls) viewer events
    (fun _ _ _ same => same) rfl

@[simp] theorem dispatchAll_scrolls : (viewer.dispatchAll events).scrolls = viewer.scrolls :=
  dispatchAll_induction (motive := fun after => after.scrolls = viewer.scrolls) viewer events
    (fun _ _ _ same => same) rfl

@[simp] theorem dispatchAll_sessions : (viewer.dispatchAll events).sessions = viewer.sessions :=
  dispatchAll_induction (motive := fun after => after.sessions = viewer.sessions) viewer events
    (fun _ _ _ same => same) rfl

end

/-! ## Stopping and opening -/

@[simp] theorem stop_state : viewer.stop.state = viewer.state := by
  unfold stop
  split <;> rfl

@[simp] theorem stop_current : viewer.stop.current = none := by
  unfold stop
  split <;> simp_all

@[simp] theorem stop_held? : viewer.stop.held? = none := by
  simp [held?]

@[simp] theorem stop_config : viewer.stop.config = viewer.config := by
  unfold stop
  split <;> rfl

@[simp] theorem stop_sessions_length : viewer.stop.sessions.length = viewer.sessions.length := by
  unfold stop
  split <;> simp

theorem session?_stop : viewer.stop.session? id = (viewer.session? id).map fun session =>
    if viewer.held?.map Prod.fst = some id then { session with isCancelled := true }
    else session := by
  unfold stop held?
  cases atHand : viewer.current with
  | none => simp
  | some slot =>
    have moved : { viewer.modify slot.session fun session => { session with isCancelled := true }
        with current := none }.session? id = (viewer.modify slot.session fun session =>
          { session with isCancelled := true }).session? id := session?_congr id rfl
    simp only [moved, session?_modify, Option.map_some, Option.some.injEq, eq_comm]

def newcomer (job : String) (status : Status) (sequel : List ViewEvent) : Session :=
  let plan := Plan.forStatus? viewer.config status
  { job, plan
    challenge := viewer.challenge
    viewport := viewer.viewport
    stage := if plan.isSome then .ready else .loading
    sequel := if plan.isSome then [] else sequel }

section
variable (job : String) (status : Status) (sequel : List ViewEvent)

@[simp] theorem takeOver_sessions : (viewer.takeOver job status sequel).sessions =
    viewer.sessions ++ [viewer.newcomer job status sequel] := rfl

@[simp] theorem takeOver_state : (viewer.takeOver job status sequel).state =
    viewer.state.reduce (.sessionOpened (viewer.sessions.length + 1) job status
      (Plan.forStatus? viewer.config status).isSome) :=
  dispatch_state viewer _

theorem takeOver_active : (viewer.takeOver job status sequel).state.active =
      some (viewer.sessions.length + 1) := by
  rw [takeOver_state, ViewState.reduce_of_accepts rfl]
  cases (Plan.forStatus? viewer.config status).isSome <;> rfl

@[simp] theorem takeOver_held? : (viewer.takeOver job status sequel).held? =
    some (viewer.sessions.length + 1, job) := rfl

theorem session?_takeOver : (viewer.takeOver job status sequel).session? id =
    if id = viewer.sessions.length + 1 then some (viewer.newcomer job status sequel)
    else viewer.session? id := by
  cases id with
  | zero => simp [session?]
  | succ n =>
    rcases Nat.lt_trichotomy n viewer.sessions.length with below | equal | above
    · simp [session?, List.getElem?_append_left below, Nat.ne_of_lt below]
    · simp [session?, equal]
    · simp [session?, List.getElem?_append, Nat.ne_of_gt above, Nat.not_lt_of_gt above]
      omega

end

/-! ## Endings -/

section
variable (outcome : Outcome)

theorem conclude_sessions : (viewer.conclude id outcome).sessions =
    (viewer.setStage id (.over outcome)).sessions := by
  unfold conclude
  dsimp only
  split <;> rfl

theorem conclude_held? : (viewer.conclude id outcome).held? = viewer.held? := by
  unfold conclude
  dsimp only
  split <;> rfl

theorem conclude_state : (viewer.conclude id outcome).state =
    if outcome = .cancelled then viewer.state else viewer.state.reduce (.sessionFinished id) := by
  unfold conclude
  dsimp only
  split
  · rfl
  · exact dispatch_state _ _

end

theorem outcomeOf_ne_superseded (fault : Fault) : outcomeOf fault ≠ .superseded := by
  unfold outcomeOf
  split <;> simp

@[simp] theorem release_sessions : (viewer.release id).sessions = viewer.sessions := by
  unfold release
  split <;> rfl

@[simp] theorem release_state : (viewer.release id).state = viewer.state := by
  unfold release
  split <;> rfl

theorem release_of_free (free : viewer.held?.map Prod.fst ≠ some id) :
    viewer.release id = viewer := by
  rw [release, current_session, if_neg free]

theorem release_held? : (viewer.release id).held? =
    if viewer.held?.map Prod.fst = some id then none else viewer.held? := by
  unfold release
  rw [current_session]
  split <;> rfl

section
variable (session : Session) (result : Except Fault Snapshot)

theorem loaded_eq : viewer.loaded id session result =
    (((viewer.showLoaded id session result).1.setStage id
      (.over (viewer.showLoaded id session result).2)).release id).dispatchAll session.sequel := rfl

theorem showLoaded_of_stopped {session : Session} (cancelled : session.isCancelled)
    (inactive : viewer.state.active ≠ some id) :
    (viewer.showLoaded id session result).1 = viewer := by
  have refused : viewer.dispatch (.sessionFinished id) = viewer :=
    dispatch_of_not_accepts _ _ (by simpa [ViewState.accepts_finished] using inactive)
  cases result with
  | ok snapshot => simpa [showLoaded, publish?, cancelled] using refused
  | error fault => simp [showLoaded, cancelled]

theorem showLoaded_of_given_up :
    viewer.showLoaded id session (.error .cancelled) = (viewer, .cancelled) := rfl

theorem showLoaded_of_active {session : Session} {result : Except Fault Snapshot}
    (uncancelled : session.isCancelled = false) (active : viewer.state.active = some id)
    (answered : result ≠ .error .cancelled) :
    (viewer.showLoaded id session result).1.state =
        viewer.state.afterLoad session.job result ∧
      ((viewer.showLoaded id session result).2 = .completed ∨
        (viewer.showLoaded id session result).2 = .failed) := by
  have published {event : ViewEvent} (accepted : viewer.state.accepts event)
      (keeps : (viewer.state.apply event).active = viewer.state.active) :
      ((viewer.publish? session event).getD viewer |>.dispatch (.sessionFinished id)).state =
        (viewer.state.apply event).endSession := by
    rw [publish?, uncancelled, accepted]
    simp only [Bool.not_false, Bool.and_self, if_true, Option.getD_some, dispatch_state]
    rw [ViewState.reduce_of_accepts accepted,
      ViewState.reduce_finished_of_active (keeps.trans active)]
  cases result with
  | ok snapshot =>
    refine ⟨?_, .inl rfl⟩
    refine (published ?_ ?_).trans ?_
    · simpa [ViewState.accepts_snapshot] using active
    · rw [ViewState.apply_snapshot]
    · rw [ViewState.apply_snapshot]
      rfl
  | error fault =>
    have heard : (fault.isCancelled || session.isCancelled) = false := by
      cases fault <;> simp_all [Fault.isCancelled]
    unfold showLoaded
    simp only [heard, Bool.false_eq_true, if_false]
    split
    · rename_i missing
      refine ⟨(published ?_ rfl).trans ?_, .inr rfl⟩
      · simpa [ViewState.accepts_snapshotFailed] using active
      · simp [ViewState.afterLoad, ViewState.apply, ViewState.endSession, loadedLog, loadedError,
          missing]
    · rename_i known
      refine ⟨(published ?_ rfl).trans ?_, .inr rfl⟩
      · simpa [ViewState.accepts_snapshotFailed] using active
      · simp [ViewState.afterLoad, ViewState.apply, ViewState.endSession, loadedLog, loadedError,
          known]

theorem showLoaded_sessions : (viewer.showLoaded id session result).1.sessions = viewer.sessions ∧
    (viewer.showLoaded id session result).1.held? = viewer.held? := by
  have published (event : ViewEvent) :
      ((viewer.publish? session event).getD viewer).sessions = viewer.sessions ∧
        ((viewer.publish? session event).getD viewer).held? = viewer.held? := by
    unfold publish?
    split <;> exact ⟨rfl, rfl⟩
  unfold showLoaded
  cases result with
  | ok snapshot => exact published _
  | error fault =>
    dsimp only
    split
    · exact ⟨rfl, rfl⟩
    · split <;> exact published _

theorem showLoaded_outcome : (viewer.showLoaded id session result).2 ≠ .superseded ∧
    ((viewer.showLoaded id session result).2 = .cancelled →
      session.isCancelled ∨ result = .error .cancelled) := by
  unfold showLoaded
  cases result with
  | ok snapshot => simp
  | error fault =>
    dsimp only
    split
    · rename_i aborted
      cases fault <;> simp_all [Fault.isCancelled]
    · split <;> simp

theorem loaded_state {session : Session} (bare : session.sequel = []) :
    (viewer.loaded id session result).state = (viewer.showLoaded id session result).1.state := by
  rw [loaded_eq, bare]
  exact release_state _ _

theorem loaded_held? {session : Session} (bare : session.sequel = [])
    (held : viewer.held?.map Prod.fst = some id) :
    (viewer.loaded id session result).held? = none := by
  have kept (stage : Stage) :
      ((viewer.showLoaded id session result).1.setStage id stage).held? = viewer.held? :=
    (viewer.showLoaded_sessions id session result).2
  rw [loaded_eq, bare]
  change (release _ _).held? = none
  rw [release_held?, kept, if_pos held]

theorem loaded_sessions : (viewer.loaded id session result).sessions =
    (viewer.setStage id (.over (viewer.showLoaded id session result).2)).sessions := by
  have same := (viewer.showLoaded_sessions id session result).1
  rw [loaded_eq, dispatchAll_sessions, release_sessions]
  simp [setStage, modify, same]

end

/-! ## Viewers that are alike -/

/-- Two viewers with the same sessions, the same one at hand, and the same log on screen. -/
structure Alike (before after : Viewer) : Prop where
  sessions : after.sessions = before.sessions
  held : after.held? = before.held?
  logView : after.state.logView = before.state.logView

namespace Alike

variable {viewer : Viewer} {event : ViewEvent}

theorem refl (viewer : Viewer) : Alike viewer viewer := ⟨rfl, rfl, rfl⟩

theorem trans {first middle last : Viewer} (left : Alike first middle) (right : Alike middle last) :
    Alike first last :=
  ⟨right.sessions.trans left.sessions, right.held.trans left.held,
    right.logView.trans left.logView⟩

theorem dispatch (spares : event.sparesLog) : Alike viewer (viewer.dispatch event) :=
  ⟨rfl, rfl, by rw [dispatch_state, ViewState.logView_reduce_of_spares spares]⟩

theorem dispatchAll {events : List ViewEvent} (spare : ∀ event ∈ events, event.sparesLog) :
    Alike viewer (viewer.dispatchAll events) :=
  dispatchAll_induction viewer events
    (fun _ event member alike => alike.trans (.dispatch (spare event member))) (.refl viewer)

theorem call (call : Call) : Alike viewer (viewer.call call) := ⟨rfl, rfl, rfl⟩

theorem scroll (session : Session) : Alike viewer (viewer.scroll session) := by
  unfold Viewer.scroll
  split <;> exact ⟨rfl, rfl, rfl⟩

theorem askList (challenge : String) : Alike viewer (viewer.askList challenge) :=
  (Alike.dispatch rfl).trans (.call _)

theorem listAnswered (result : Except Fault (List Summary)) :
    Alike viewer (viewer.listAnswered result).1 := by
  cases result <;> exact .dispatch rfl

theorem loadList (answers : Answers) (challenge : String) :
    Alike viewer (viewer.loadList answers challenge).1 :=
  (Alike.askList challenge).trans (.listAnswered _)

theorem showList (answers : Answers) (challenge : String) :
    Alike viewer (viewer.showList answers challenge) := by
  unfold Viewer.showList
  dsimp only
  split
  · exact .loadList answers challenge
  · exact (Alike.loadList answers challenge).trans (.dispatch rfl)

theorem showChallenge (answers : Answers) (found : Challenge) (id : String) :
    Alike viewer (({ viewer.dispatch (.challengeLoaded found) with
      challenge := some id } : Viewer).showList answers id) := by
  have told : Alike viewer (viewer.dispatch (.challengeLoaded found)) := .dispatch rfl
  have moved : Alike (viewer.dispatch (.challengeLoaded found))
      { viewer.dispatch (.challengeLoaded found) with challenge := some id } := ⟨rfl, rfl, rfl⟩
  exact (told.trans moved).trans (.showList answers id)

theorem refresh (answers : Answers) : Alike viewer (viewer.refresh answers) := by
  unfold Viewer.refresh
  split
  · exact .refl viewer
  · exact .showList answers _

theorem join : Alike viewer viewer.join.1 := by
  unfold Viewer.join
  split
  · exact .refl viewer
  · rename_i slot atHand
    split
    · split
      · exact ⟨rfl, by simp [held?, atHand], rfl⟩
      · exact .refl viewer
    · exact .refl viewer

end Alike

end BuildWatch.Viewer
