import BuildWatch.Proofs.Follow.Parts

/-!
# Coherent viewers

What the sessions of a viewer, the session at hand and the log view have to do with each other.
A viewer that goes away leaves the screen as it is.

* `Coherent`: only the newest session can be running, it is the one at hand, and the screen is its.
* `Coherent.front_of_isRunning`: what this says of a running session.
* `Coherent.restage`: a session may go on to a stage that fits it.
-/

namespace BuildWatch

/-- What may happen in a run: the viewer goes away, a session has to wait for a list, the platform
gives up a call that nobody has stopped. -/
structure Leeway where
  leave : Prop
  wait : Prop
  abort : Prop

def Leeway.full : Leeway where
  leave := True
  wait := True
  abort := True

/-! ## Standing of a session -/

namespace Session

def isRunning (session : Session) : Bool :=
  !session.isCancelled && !session.isOver

def Fits (may : Leeway) (session : Session) : Prop :=
  (∀ event ∈ session.sequel, event.sparesLog) ∧
    match session.stage with
    | .loading => session.plan = none
    | .over outcome =>
      outcome ≠ .superseded ∧ (outcome = .cancelled → session.isCancelled ∨ may.abort)
    | .listing _ => session.plan.isSome ∧ may.wait
    | _ => session.plan.isSome

variable {session : Session}

theorem Fits.cancel {may : Leeway} (fits : session.Fits may) :
    { session with isCancelled := true }.Fits may := by
  refine ⟨fits.1, ?_⟩
  have said := fits.2
  cases stageEq : session.stage <;> simp_all

theorem isRunning_iff :
    session.isRunning ↔ session.isCancelled = false ∧ session.isOver = false := by
  simp [isRunning]

theorem isOver_of_loading (loading : session.stage = .loading) : session.isOver = false := by
  simp [isOver, loading]

theorem isRunning_of_loading (loading : session.stage = .loading)
    (uncancelled : session.isCancelled = false) : session.isRunning :=
  isRunning_iff.mpr ⟨uncancelled, isOver_of_loading loading⟩

theorem Fits.unplanned {may : Leeway} (fits : session.Fits may)
    (loading : session.stage = .loading) : session.plan = none := by
  have said := fits.2
  rwa [loading] at said

end Session

namespace LogView

structure Shows (view : LogView) (id : SessionId) (session : Session) : Prop where
  active : view.active = some id
  following : view.isFollowing = session.plan.isSome
  loading : view.isLoadingLog = session.plan.isNone
  job : view.selected.map SelectedLog.job = session.plan.map fun _ => session.job

structure Idle (view : LogView) : Prop where
  inactive : view.active = none
  still : view.isFollowing = false
  loaded : view.isLoadingLog = false

theorem Shows.restage {view : LogView} {id : SessionId} {session : Session}
    (shows : view.Shows id session) (stage : Stage) : view.Shows id { session with stage } :=
  ⟨shows.active, shows.following, shows.loading, shows.job⟩

theorem Shows.cancel {view : LogView} {id : SessionId} {session : Session}
    (shows : view.Shows id session) : view.Shows id { session with isCancelled := true } :=
  ⟨shows.active, shows.following, shows.loading, shows.job⟩

theorem Idle.active_ne {view : LogView} (idle : view.Idle) (id : SessionId) :
    view.active ≠ some id := by
  rw [idle.inactive]
  exact (Option.some_ne_none id).symm

theorem idle_endSession (state : ViewState) : state.endSession.logView.Idle := ⟨rfl, rfl, rfl⟩

end LogView

namespace Viewer

/-! ## Coherence -/

/-- What the newest session, the session at hand and the log view have to do with each other, by
what has become of the newest session. -/
inductive Front (gone : Prop) (id : SessionId) (view : LogView) :
    Option Session → Option (SessionId × String) → Prop
  | empty (idle : view.Idle) : Front gone id view none none
  | running {session : Session} (running : session.isRunning) (shows : view.Shows id session) :
      Front gone id view (some session) (some (id, session.job))
  | ended {session : Session} {outcome : Outcome} (uncancelled : session.isCancelled = false)
      (finished : session.stage = .over outcome)
      (left : if outcome = .cancelled then view.Shows id session else view.Idle) :
      Front gone id view (some session) (session.plan.map fun _ => (id, session.job))
  | stopped {session : Session} (cancelled : session.isCancelled)
      (left : view.Idle ∨ gone ∧ session.stage ≠ .loading ∧ view.Shows id session) :
      Front gone id view (some session) none

def newest? (viewer : Viewer) : Option Session :=
  viewer.session? viewer.sessions.length

theorem newest?_stop (viewer : Viewer) : viewer.stop.newest? = viewer.newest?.map fun session =>
    if viewer.held?.map Prod.fst = some viewer.sessions.length
    then { session with isCancelled := true } else session := by
  rw [newest?, newest?, session?_stop, stop_sessions_length]

structure Coherent (may : Leeway) (viewer : Viewer) : Prop where
  fits : ∀ {id session}, viewer.session? id = some session → session.Fits may
  settled : ∀ {id session}, viewer.session? id = some session →
    id ≠ viewer.sessions.length → session.isRunning = false
  front : Front may.leave viewer.sessions.length viewer.state.logView viewer.newest? viewer.held?

variable {gone : Prop} {may : Leeway} {viewer after : Viewer} {id : SessionId} {session : Session}

theorem coherent_start (config : ViewerConfig) : Coherent may { config } where
  fits found := by cases ‹SessionId› <;> simp [session?] at found
  settled found := by cases ‹SessionId› <;> simp [session?] at found
  front := .empty ⟨rfl, rfl, rfl⟩

theorem Front.active {view : LogView} {newest : Option Session}
    {atHand : Option (SessionId × String)} {other : SessionId}
    (front : Front gone id view newest atHand) (isActive : view.active = some other) :
    other = id := by
  cases front with
  | empty idle => exact absurd isActive (idle.active_ne other)
  | running _ shows => simpa [shows.active, eq_comm] using isActive
  | @ended _ outcome _ _ left =>
    split at left
    · simpa [left.active, eq_comm] using isActive
    · exact absurd isActive (left.active_ne other)
  | stopped _ left =>
    rcases left with idle | ⟨-, -, shows⟩
    · exact absurd isActive (idle.active_ne other)
    · simpa [shows.active, eq_comm] using isActive

theorem Front.held_fst {view : LogView} {newest : Option Session}
    {atHand : Option (SessionId × String)} {other : SessionId}
    (front : Front gone id view newest atHand) (held : atHand.map Prod.fst = some other) :
    other = id := by
  cases front with
  | empty => simp at held
  | running => simpa [eq_comm] using held
  | @ended session _ _ _ _ => cases planEq : session.plan <;> simp_all
  | stopped => simp at held

namespace Coherent

theorem id_of_isRunning (coherent : Coherent may viewer)
    (found : viewer.session? id = some session) (running : session.isRunning) :
    id = viewer.sessions.length := by
  by_cases newest : id = viewer.sessions.length
  · exact newest
  · simp [coherent.settled found newest] at running

theorem front_of_isRunning (coherent : Coherent may viewer)
    (found : viewer.session? id = some session) (running : session.isRunning) :
    viewer.state.logView.Shows id session ∧ viewer.held? = some (id, session.job) := by
  obtain rfl := coherent.id_of_isRunning found running
  have front := coherent.front
  rw [newest?, found] at front
  generalize viewer.held? = holding at front
  cases front with
  | running _ shows => exact ⟨shows, rfl⟩
  | ended _ finished => simp [Session.isRunning, Session.isOver, finished] at running
  | stopped cancelled => simp [Session.isRunning, cancelled] at running

theorem session_of_held (coherent : Coherent may viewer)
    (held : viewer.held?.map Prod.fst = some id) :
    ∃ session, viewer.session? id = some session := by
  have front := coherent.front
  obtain rfl := front.held_fst held
  rw [newest?] at front
  cases newestEq : viewer.session? viewer.sessions.length with
  | some session => exact ⟨session, rfl⟩
  | none =>
    rw [newestEq] at front
    generalize viewer.held? = holding at front held
    cases front
    simp at held

theorem alike (coherent : Coherent may viewer) (alike : Alike viewer after) :
    Coherent may after := by
  obtain ⟨sessions, atHand, view⟩ := alike
  have lookup (other : SessionId) : after.session? other = viewer.session? other :=
    session?_congr other sessions
  constructor
  · exact fun found => coherent.fits (lookup _ ▸ found)
  · exact fun found older => coherent.settled (lookup _ ▸ found) (sessions ▸ older)
  · simpa only [newest?, lookup, sessions, atHand, view] using coherent.front

theorem restage (coherent : Coherent may viewer) (stage : Stage)
    (found : viewer.session? id = some session)
    (sessions : after.sessions = (viewer.setStage id stage).sessions)
    (fits : { session with stage }.Fits may)
    (runs : { session with stage }.isRunning → session.isRunning)
    (older : id ≠ viewer.sessions.length →
      after.held? = viewer.held? ∧ after.state.logView = viewer.state.logView)
    (newest : id = viewer.sessions.length →
      Front may.leave id after.state.logView (some { session with stage }) after.held?) :
    Coherent may after := by
  have length : after.sessions.length = viewer.sessions.length := by simp [sessions]
  have self : after.session? id = some { session with stage } := by
    rw [session?_congr id sessions, session?_setStage_self found]
  have rest {other : SessionId} (differs : other ≠ id) :
      after.session? other = viewer.session? other := by
    simp [session?_congr other sessions, session?_setStage, differs]
  constructor
  · intro other entry located
    by_cases same : other = id
    · rw [same, self, Option.some.injEq] at located
      exact located ▸ fits
    · exact coherent.fits (rest same ▸ located)
  · intro other entry located isOlder
    rw [length] at isOlder
    by_cases same : other = id
    · rw [same, self, Option.some.injEq] at located
      rw [← located, Bool.eq_false_iff]
      intro running
      simp [coherent.settled found (same ▸ isOlder)] at runs
      simp [runs] at running
    · exact coherent.settled (rest same ▸ located) isOlder
  · rw [newest?, length]
    by_cases same : viewer.sessions.length = id
    · rw [same, self]
      exact newest same.symm
    · obtain ⟨atHand, view⟩ := older (Ne.symm same)
      rw [rest same, atHand, view]
      exact coherent.front

end Coherent

end Viewer

end BuildWatch
