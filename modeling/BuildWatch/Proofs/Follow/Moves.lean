import Mathlib.Logic.Relation
import BuildWatch.Proofs.Follow.Coherence

namespace BuildWatch

def Stage.isLive : Stage → Bool
  | .loading | .over _ => false
  | _ => true

theorem Session.isOver_of_isLive {session : Session} (live : session.stage.isLive) :
    session.isOver = false := by
  unfold isOver
  split <;> simp_all [Stage.isLive]

namespace Viewer

inductive Move (may : Leeway) (viewer : Viewer) : Viewer → Prop
  | aside {after : Viewer} (alike : Alike viewer after) : Move may viewer after
  | advance {id : SessionId} {session : Session} {stage : Stage}
      (found : viewer.session? id = some session) (ongoing : session.isOver = false)
      (planned : session.plan.isSome) (live : stage.isLive)
      (waits : ∀ next, stage = .listing next → may.wait ∧ session.isCancelled = false) :
      Move may viewer (viewer.setStage id stage)
  | conclude {id : SessionId} {session : Session} {outcome : Outcome}
      (found : viewer.session? id = some session) (ongoing : session.isOver = false)
      (planned : session.plan.isSome) (proper : outcome ≠ .superseded)
      (stopped : outcome = .cancelled → session.isCancelled ∨ may.abort) :
      Move may viewer (viewer.conclude id outcome)
  | chunk {id : SessionId} {session : Session} {text : String} {status : Status}
      (found : viewer.session? id = some session) (running : session.isRunning)
      (planned : session.plan.isSome) :
      Move may viewer (viewer.dispatch (.chunkReceived id text status))
  | snapshot {id : SessionId} {session : Session} {snapshot : Snapshot}
      (found : viewer.session? id = some session) (running : session.isRunning)
      (planned : session.plan.isSome) :
      Move may viewer (viewer.dispatch (.snapshotReceived id session.job snapshot))
  | loaded {id : SessionId} {session : Session} {result : Except Fault Snapshot}
      (found : viewer.session? id = some session) (loading : session.stage = .loading)
      (aborts : result = .error .cancelled → may.abort) :
      Move may viewer (viewer.loaded id session result)
  | close {job : String} (displayed : viewer.isDisplayed job) :
      Move may viewer (viewer.stop.dispatch .logClosed)
  | leave (busy : viewer.held?.isSome) :
      Move may viewer (viewer.stop.dispatch .sessionCancelled)
  | drop (allowed : may.leave) (settled : viewer.isLoading = false) : Move may viewer viewer.stop
  | takeOver {job : String} {status : Status} {sequel : List ViewEvent}
      (spare : ∀ event ∈ sequel, event.sparesLog) :
      Move may viewer (viewer.stop.takeOver job status sequel)

abbrev Moves (may : Leeway) : Viewer → Viewer → Prop :=
  Relation.ReflTransGen (Move may)

/-! ## Moves keep a viewer coherent -/

namespace Coherent

variable {may : Leeway} {viewer after : Viewer} {id : SessionId} {session : Session}

theorem front_of_newest (coherent : Coherent may viewer)
    (found : viewer.session? viewer.sessions.length = some session) :
    Front may.leave viewer.sessions.length viewer.state.logView (some session) viewer.held? := by
  have front := coherent.front
  rwa [newest?, found] at front

theorem advance {stage : Stage} (coherent : Coherent may viewer)
    (found : viewer.session? id = some session) (ongoing : session.isOver = false)
    (planned : session.plan.isSome) (live : stage.isLive)
    (waits : ∀ next, stage = .listing next → may.wait) :
    Coherent may (viewer.setStage id stage) := by
  refine coherent.restage stage found rfl ?_ ?_ (fun _ => ⟨rfl, rfl⟩) ?_
  · refine ⟨(coherent.fits found).1, ?_⟩
    cases stage <;> simp_all [Stage.isLive]
  · exact fun running =>
      Session.isRunning_iff.mpr ⟨(Session.isRunning_iff.mp running).1, ongoing⟩
  · rintro rfl
    change Front may.leave _ viewer.state.logView _ viewer.held?
    have front := coherent.front_of_newest found
    generalize viewer.held? = holding at front ⊢
    cases front with
    | running running shows =>
      have uncancelled := (Session.isRunning_iff.mp running).1
      refine .running ?_ (shows.restage stage)
      exact Session.isRunning_iff.mpr ⟨uncancelled, Session.isOver_of_isLive live⟩
    | ended _ finished => simp [Session.isOver, finished] at ongoing
    | stopped cancelled left =>
      refine .stopped cancelled ?_
      rcases left with idle | ⟨away, -, shows⟩
      · exact .inl idle
      · refine .inr ⟨away, ?_, shows.restage stage⟩
        rintro rfl
        simp [Stage.isLive] at live

theorem conclude {outcome : Outcome} (coherent : Coherent may viewer)
    (found : viewer.session? id = some session) (ongoing : session.isOver = false)
    (planned : session.plan.isSome) (proper : outcome ≠ .superseded)
    (stopped : outcome = .cancelled → session.isCancelled ∨ may.abort) :
    Coherent may (viewer.conclude id outcome) := by
  have atHand := viewer.conclude_held? id outcome
  have told := viewer.conclude_state id outcome
  refine coherent.restage (.over outcome) found (viewer.conclude_sessions id outcome)
    ⟨(coherent.fits found).1, proper, stopped⟩ ?_ ?_ ?_
  · simp [Session.isRunning, Session.isOver]
  · intro older
    refine ⟨atHand, ?_⟩
    rw [told]
    split
    · rfl
    · rw [ViewState.reduce_finished_of_inactive]
      exact fun active => older (coherent.front.active active)
  · rintro rfl
    rw [atHand, told]
    have front := coherent.front_of_newest found
    generalize viewer.held? = holding at front ⊢
    cases front with
    | running running shows =>
      have uncancelled := (Session.isRunning_iff.mp running).1
      have kept : some (viewer.sessions.length, session.job) =
          session.plan.map fun _ => (viewer.sessions.length, session.job) := by
        obtain ⟨plan, planEq⟩ := Option.isSome_iff_exists.mp planned
        rw [planEq, Option.map_some]
      rw [kept]
      refine .ended uncancelled rfl ?_
      split
      · exact shows.restage _
      · rw [ViewState.reduce_finished_of_active shows.active]
        exact LogView.idle_endSession _
    | ended _ finished => simp [Session.isOver, finished] at ongoing
    | stopped cancelled left =>
      refine .stopped cancelled ?_
      rcases left with idle | ⟨away, -, shows⟩
      · refine .inl ?_
        split
        · exact idle
        · rwa [ViewState.reduce_finished_of_inactive (idle.active_ne _)]
      · split
        · exact .inr ⟨away, by simp, shows.restage _⟩
        · rw [ViewState.reduce_finished_of_active shows.active]
          exact .inl (LogView.idle_endSession _)

theorem relog {event : ViewEvent} (coherent : Coherent may viewer)
    (found : viewer.session? id = some session) (running : session.isRunning)
    (shows : (viewer.state.reduce event).logView.Shows id session) :
    Coherent may (viewer.dispatch event) := by
  refine ⟨coherent.fits, coherent.settled, ?_⟩
  obtain rfl := coherent.id_of_isRunning found running
  change Front may.leave viewer.sessions.length (viewer.dispatch event).state.logView
    viewer.newest? viewer.held?
  rw [dispatch_state, newest?, found, (coherent.front_of_isRunning found running).2]
  exact .running running shows

theorem accepts_chunk {text : String} {status : Status} (coherent : Coherent may viewer)
    (found : viewer.session? id = some session) (running : session.isRunning)
    (planned : session.plan.isSome) : viewer.state.accepts (.chunkReceived id text status) := by
  obtain ⟨shows, -⟩ := coherent.front_of_isRunning found running
  have active : viewer.state.active = some id := shows.active
  have shown : viewer.state.selected.map SelectedLog.job = session.plan.map fun _ => session.job :=
    shows.job
  rw [ViewState.accepts_chunk, ← Option.isSome_map (f := SelectedLog.job), shown]
  simp [planned, active]

theorem accepts_snapshot {job : String} {snapshot : Snapshot} (coherent : Coherent may viewer)
    (found : viewer.session? id = some session) (running : session.isRunning) :
    viewer.state.accepts (.snapshotReceived id job snapshot) := by
  obtain ⟨shows, -⟩ := coherent.front_of_isRunning found running
  have active : viewer.state.active = some id := shows.active
  simp [ViewState.accepts_snapshot, active]

theorem chunk {text : String} {status : Status} (coherent : Coherent may viewer)
    (found : viewer.session? id = some session) (running : session.isRunning)
    (planned : session.plan.isSome) :
    Coherent may (viewer.dispatch (.chunkReceived id text status)) := by
  obtain ⟨shows, -⟩ := coherent.front_of_isRunning found running
  have shown : viewer.state.selected.map SelectedLog.job = session.plan.map fun _ => session.job :=
    shows.job
  refine coherent.relog found running ?_
  rw [ViewState.reduce_of_accepts (coherent.accepts_chunk found running planned)]
  refine ⟨shows.active, shows.following, shows.loading, ?_⟩
  simpa [ViewState.apply, ViewState.logView, SelectedLog.append, Function.comp_def] using shown

theorem snapshot {snapshot : Snapshot} (coherent : Coherent may viewer)
    (found : viewer.session? id = some session) (running : session.isRunning)
    (planned : session.plan.isSome) :
    Coherent may (viewer.dispatch (.snapshotReceived id session.job snapshot)) := by
  obtain ⟨shows, -⟩ := coherent.front_of_isRunning found running
  obtain ⟨plan, planEq⟩ := Option.isSome_iff_exists.mp planned
  refine coherent.relog found running ?_
  rw [ViewState.reduce_of_accepts (coherent.accepts_snapshot found running),
    ViewState.apply_snapshot]
  exact ⟨shows.active, shows.following, by simp [ViewState.logView, planEq],
    by simp [ViewState.logView, planEq]⟩

theorem front_showLoaded {gone : Prop} (uncancelled : session.isCancelled = false)
    (unplanned : session.plan = none) (shows : viewer.state.logView.Shows id session)
    (result : Except Fault Snapshot) :
    Front gone id (viewer.showLoaded id session result).1.state.logView
      (some { session with stage := .over (viewer.showLoaded id session result).2 }) none := by
  have free : (session.plan.map fun _ => (id, session.job)) = none := by
    rw [unplanned, Option.map_none]
  rw [← free]
  refine .ended uncancelled rfl ?_
  by_cases givenUp : result = .error .cancelled
  · rw [givenUp, showLoaded_of_given_up, if_pos rfl]
    exact shows.restage _
  · obtain ⟨view, ending⟩ := viewer.showLoaded_of_active id uncancelled shows.active givenUp
    rw [if_neg (by rcases ending with ending | ending <;> simp [ending]), view]
    exact ⟨rfl, rfl, rfl⟩

theorem loaded {result : Except Fault Snapshot} (coherent : Coherent may viewer)
    (found : viewer.session? id = some session) (loading : session.stage = .loading)
    (aborts : result = .error .cancelled → may.abort) :
    Coherent may (viewer.loaded id session result) := by
  have fits := coherent.fits found
  have unplanned := fits.unplanned loading
  have ongoing := Session.isOver_of_loading loading
  obtain ⟨proper, stopped⟩ := viewer.showLoaded_outcome id session result
  obtain ⟨sameSessions, sameHeld⟩ := viewer.showLoaded_sessions id session result
  rw [loaded_eq]
  refine alike ?_ (.dispatchAll fits.1)
  have atHand (stage : Stage) :
      (((viewer.showLoaded id session result).1.setStage id stage).release id).held? =
        if viewer.held?.map Prod.fst = some id then none else viewer.held? := by
    rw [← sameHeld]
    exact release_held? _ _
  have told (stage : Stage) :
      (((viewer.showLoaded id session result).1.setStage id stage).release id).state =
        (viewer.showLoaded id session result).1.state := release_state _ _
  refine coherent.restage (.over (viewer.showLoaded id session result).2) found ?_
    ⟨fits.1, proper, fun ended => (stopped ended).imp_right aborts⟩ ?_ ?_ ?_
  · simp [setStage, modify, sameSessions]
  · simp [Session.isRunning, Session.isOver]
  · intro older
    have cancelled : session.isCancelled := by
      simpa [Session.isRunning, ongoing] using coherent.settled found older
    have inactive : viewer.state.active ≠ some id :=
      fun active => older (coherent.front.active active)
    rw [atHand, told, showLoaded_of_stopped _ _ _ cancelled inactive]
    exact ⟨if_neg fun held => older (coherent.front.held_fst held), rfl⟩
  · rintro rfl
    rw [atHand, told]
    have front := coherent.front_of_newest found
    generalize viewer.held? = holding at front ⊢
    cases front with
    | running running shows =>
      have uncancelled := (Session.isRunning_iff.mp running).1
      rw [Option.map_some, if_pos rfl]
      exact front_showLoaded uncancelled unplanned shows result
    | ended _ finished => simp [Session.isOver, finished] at ongoing
    | stopped cancelled left =>
      have idle : viewer.state.logView.Idle := left.resolve_right fun other => other.2.1 loading
      rw [showLoaded_of_stopped _ _ _ cancelled (idle.active_ne _)]
      exact .stopped cancelled (.inl idle)

theorem not_isRunning_of_stop (coherent : Coherent may viewer)
    (found : viewer.stop.session? id = some session) : session.isRunning = false := by
  rw [session?_stop, Option.map_eq_some_iff] at found
  obtain ⟨original, found, rfl⟩ := found
  by_cases running : original.isRunning
  · have held : viewer.held?.map Prod.fst = some id := by
      rw [(coherent.front_of_isRunning found running).2, Option.map_some]
    simp [held, Session.isRunning]
  · split
    · simp [Session.isRunning]
    · simpa using running

theorem fits_of_stop (coherent : Coherent may viewer)
    (found : viewer.stop.session? id = some session) : session.Fits may := by
  rw [session?_stop, Option.map_eq_some_iff] at found
  obtain ⟨original, found, rfl⟩ := found
  have fits := coherent.fits found
  split
  · exact fits.cancel
  · exact fits

theorem of_stop (coherent : Coherent may viewer)
    (sessions : after.sessions = viewer.stop.sessions)
    (front : Front may.leave viewer.sessions.length after.state.logView viewer.stop.newest?
      after.held?) : Coherent may after := by
  have lookup (other : SessionId) : after.session? other = viewer.stop.session? other :=
    session?_congr other sessions
  constructor
  · exact fun found => coherent.fits_of_stop (lookup _ ▸ found)
  · exact fun found _ => coherent.not_isRunning_of_stop (lookup _ ▸ found)
  · rw [newest?, lookup, sessions, stop_sessions_length]
    rwa [newest?, stop_sessions_length] at front

theorem front_stop_of_idle (coherent : Coherent may viewer) {view : LogView}
    (idle : view.Idle)
    (heard : ∀ session, viewer.newest? = some session → session.isCancelled = false →
      session.plan = none → session.stage ≠ .over .cancelled) :
    Front may.leave viewer.sessions.length view viewer.stop.newest? none := by
  have front := coherent.front
  rw [newest?_stop]
  generalize viewer.newest? = newest at front heard ⊢
  generalize viewer.held? = holding at front ⊢
  cases front with
  | empty => exact .empty idle
  | running => simpa using .stopped rfl (.inl idle)
  | @ended session outcome uncancelled finished =>
    cases planEq : session.plan with
    | none =>
      have proper : outcome ≠ .cancelled := by
        rintro rfl
        exact heard session rfl uncancelled planEq finished
      have front : Front may.leave viewer.sessions.length view (some session)
          (session.plan.map fun _ => (viewer.sessions.length, session.job)) :=
        .ended uncancelled finished (by rwa [if_neg proper])
      simpa [planEq] using front
    | some plan => simpa using .stopped rfl (.inl idle)
  | stopped cancelled => simpa using .stopped cancelled (.inl idle)

theorem front_stop_of_gone (coherent : Coherent may viewer) (allowed : may.leave)
    (settled : viewer.isLoading = false) :
    Front may.leave viewer.sessions.length viewer.state.logView viewer.stop.newest? none := by
  have halted (session : Session) (found : viewer.newest? = some session) :
      session.stage ≠ .loading := by
    simp only [isLoading, List.any_eq_false, beq_iff_eq] at settled
    exact settled session (session?_mem found)
  have front := coherent.front
  rw [newest?_stop]
  generalize viewer.newest? = newest at front halted ⊢
  generalize viewer.held? = holding at front ⊢
  cases front with
  | empty idle => exact .empty idle
  | @running session _ shows =>
    have unloaded := halted session rfl
    simpa using .stopped rfl (.inr ⟨allowed, unloaded, shows.cancel⟩)
  | @ended session outcome uncancelled finished left =>
    cases planEq : session.plan with
    | none =>
      have front : Front may.leave viewer.sessions.length viewer.state.logView (some session)
          (session.plan.map fun _ => (viewer.sessions.length, session.job)) :=
        .ended uncancelled finished left
      simpa [planEq] using front
    | some plan =>
      refine .stopped (by simp) ?_
      split at left
      · exact .inr ⟨allowed, by simp [finished], by simpa using left.cancel⟩
      · exact .inl left
  | stopped cancelled left => simpa using .stopped cancelled left

theorem takeOver {job : String} {status : Status} {sequel : List ViewEvent}
    (coherent : Coherent may viewer) (spare : ∀ event ∈ sequel, event.sparesLog) :
    Coherent may (viewer.stop.takeOver job status sequel) := by
  generalize plannedEq : Plan.forStatus? viewer.config status = plan
  have fits : (viewer.stop.newcomer job status sequel).Fits may := by
    cases plan <;> simp [newcomer, plannedEq, Session.Fits]
    exact spare
  have running : (viewer.stop.newcomer job status sequel).isRunning := by
    cases plan <;> simp [newcomer, plannedEq, Session.isRunning, Session.isOver]
  have shows : (viewer.stop.takeOver job status sequel).state.logView.Shows
      (viewer.sessions.length + 1) (viewer.stop.newcomer job status sequel) := by
    rw [takeOver_state, ViewState.reduce_of_accepts rfl]
    cases plan <;> constructor <;>
      simp [newcomer, plannedEq, ViewState.apply, ViewState.logView]
  have length : (viewer.stop.takeOver job status sequel).sessions.length =
      viewer.sessions.length + 1 := by simp
  have lookup (other : SessionId) := viewer.stop.session?_takeOver other job status sequel
  constructor
  · intro other entry found
    rw [lookup] at found
    split at found
    · exact Option.some.inj found ▸ fits
    · exact coherent.fits_of_stop found
  · intro other entry found older
    rw [length] at older
    rw [lookup, stop_sessions_length, if_neg older] at found
    exact coherent.not_isRunning_of_stop found
  · rw [newest?, length, lookup, stop_sessions_length, if_pos rfl, takeOver_held?,
      stop_sessions_length]
    exact .running running shows

theorem close {job : String} (coherent : Coherent may viewer)
    (displayed : viewer.isDisplayed job) :
    Coherent may (viewer.stop.dispatch .logClosed) := by
  refine coherent.of_stop rfl ?_
  change Front may.leave _ (viewer.stop.dispatch .logClosed).state.logView _ viewer.stop.held?
  rw [dispatch_state, stop_held?]
  refine coherent.front_stop_of_idle ⟨rfl, rfl, rfl⟩ ?_
  intro session found uncancelled unplanned finished
  -- The screen shows a load that was given up, with no log, and the viewer is busy with nothing.
  have front := coherent.front
  rw [found] at front
  generalize heldEq : viewer.held? = holding at front
  cases front with
  | running running => simp [Session.isRunning, Session.isOver, finished] at running
  | @ended _ outcome _ ending left =>
    obtain rfl : outcome = .cancelled := by simpa [finished, eq_comm] using ending
    rw [if_pos rfl] at left
    have bare : viewer.state.selected = none := by
      have shown : viewer.state.selected.map SelectedLog.job = _ := left.job
      simpa [unplanned] using shown
    have free : viewer.current = none := by simpa [held?, unplanned] using heldEq
    simp [isDisplayed, bare, activeJob, free] at displayed
  | stopped cancelled => simp [uncancelled] at cancelled

theorem leave (coherent : Coherent may viewer) (busy : viewer.held?.isSome) :
    Coherent may (viewer.stop.dispatch .sessionCancelled) := by
  refine coherent.of_stop rfl ?_
  change Front may.leave _ (viewer.stop.dispatch .sessionCancelled).state.logView _
    viewer.stop.held?
  rw [dispatch_state, stop_held?]
  refine coherent.front_stop_of_idle ⟨rfl, rfl, rfl⟩ ?_
  intro session found uncancelled unplanned finished
  have front := coherent.front
  rw [found] at front
  generalize viewer.held? = holding at front busy
  cases front with
  | running running => simp [Session.isRunning, Session.isOver, finished] at running
  | ended => simp [unplanned] at busy
  | stopped => simp at busy

theorem drop (coherent : Coherent may viewer) (allowed : may.leave)
    (settled : viewer.isLoading = false) : Coherent may viewer.stop := by
  refine coherent.of_stop rfl ?_
  rw [stop_state, stop_held?]
  exact coherent.front_stop_of_gone allowed settled

end Coherent

theorem Move.coherent {may : Leeway} {viewer after : Viewer} (move : Move may viewer after)
    (coherent : Coherent may viewer) : Coherent may after := by
  cases move with
  | aside alike => exact coherent.alike alike
  | advance found ongoing planned live waits =>
    exact coherent.advance found ongoing planned live fun next listing => (waits next listing).1
  | conclude found ongoing planned proper stopped =>
    exact coherent.conclude found ongoing planned proper stopped
  | chunk found running planned => exact coherent.chunk found running planned
  | snapshot found running planned => exact coherent.snapshot found running planned
  | loaded found loading aborts => exact coherent.loaded found loading aborts
  | close displayed => exact coherent.close displayed
  | leave busy => exact coherent.leave busy
  | drop allowed settled => exact coherent.drop allowed settled
  | takeOver spare => exact coherent.takeOver spare

theorem Moves.coherent {may : Leeway} {viewer after : Viewer}
    (moves : Moves may viewer after) (coherent : Coherent may viewer) :
    Coherent may after := by
  induction moves with
  | refl => exact coherent
  | tail _ move ih => exact move.coherent ih

end Viewer

end BuildWatch
