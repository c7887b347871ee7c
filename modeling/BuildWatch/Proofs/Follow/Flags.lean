import BuildWatch.Proofs.Follow.Runs

namespace BuildWatch

namespace LogView

/-- What the flags say of each other, of the session and of the log. -/
structure Consistent (view : LogView) : Prop where
  exclusive : ¬ (view.isFollowing ∧ view.isLoadingLog)
  owned : view.isFollowing ∨ view.isLoadingLog → view.active.isSome
  bare : view.isLoadingLog → view.selected = none

variable {view : LogView} {id : SessionId} {session : Session}

theorem Idle.consistent (idle : view.Idle) : view.Consistent := by
  obtain ⟨-, still, loaded⟩ := idle
  constructor <;> simp [still, loaded]

theorem Shows.consistent (shows : view.Shows id session) : view.Consistent := by
  obtain ⟨active, following, loading, job⟩ := shows
  constructor
  · cases planEq : session.plan <;> simp [following, loading, planEq]
  · simp [active]
  · intro loads
    have unplanned : session.plan = none := by simpa [loading] using loads
    simpa [unplanned] using job

end LogView

/-! ## Any events -/

namespace ViewState

variable {state : ViewState} {event : ViewEvent}

theorem consistent_apply (consistent : state.logView.Consistent) (accepted : state.accepts event) :
    (state.apply event).logView.Consistent := by
  have ⟨exclusive, owned, bare⟩ := consistent
  cases event with
  | sessionOpened id job status live => cases live <;> constructor <;> simp [apply, logView]
  | snapshotReceived id job snapshot =>
    have active : state.active = some id := by simpa [accepts_snapshot] using accepted
    rw [apply_snapshot]
    constructor <;> simp [logView, active]
  | snapshotFailed id job message showEmpty =>
    have active : state.active = some id := by simpa [accepts_snapshotFailed] using accepted
    constructor <;> simp [apply, logView, active]
  | chunkReceived id text status =>
    exact ⟨exclusive, owned, fun loading => Option.map_eq_none_iff.mpr (bare loading)⟩
  | sessionFinished | sessionCancelled => exact (LogView.idle_endSession state).consistent
  | logClosed => exact LogView.Idle.consistent ⟨rfl, rfl, rfl⟩
  | _ => exact consistent

theorem consistent_reduce (consistent : state.logView.Consistent) :
    (state.reduce event).logView.Consistent := by
  unfold reduce
  split
  · rename_i accepted
    exact consistent_apply consistent accepted
  · exact consistent

theorem consistent_reduceAll (events : List ViewEvent) (consistent : state.logView.Consistent) :
    (state.reduceAll events).logView.Consistent := by
  induction events generalizing state with
  | nil => exact consistent
  | cons event rest ih => exact ih (consistent_reduce consistent)

end ViewState

/-! ## The answer to a load -/

/-- Whether an event shows what came of the load of a job. The end of the session is told only after
that. -/
def ViewEvent.showsLoad (id : SessionId) (job : String) : ViewEvent → Bool
  | snapshotReceived session named _ | snapshotFailed session named _ _ =>
    session == id && named == job
  | _ => false

theorem ViewEvent.session?_of_showsLoad {event : ViewEvent} {id : SessionId} {job : String}
    (shows : event.showsLoad id job) : event.session? = some id := by
  cases event with
  | snapshotReceived | snapshotFailed =>
    rw [showsLoad, Bool.and_eq_true, beq_iff_eq] at shows
    exact congrArg some shows.1
  | _ => cases shows

theorem ViewState.reduce_of_showsLoad {state : ViewState} {event : ViewEvent} {id : SessionId}
    {job : String} (active : state.active = some id) (shows : event.showsLoad id job) :
    (state.reduce event).isFollowing = state.isFollowing ∧
      ∀ log, (state.reduce event).selected = some log → log.job = job := by
  cases event with
  | snapshotReceived session named snapshot =>
    obtain ⟨rfl, rfl⟩ : session = id ∧ named = job := by simpa [ViewEvent.showsLoad] using shows
    rw [reduce_of_accepts (by simp [accepts_snapshot, active]), apply_snapshot]
    exact ⟨rfl, fun log shown => (Option.some.inj shown) ▸ rfl⟩
  | snapshotFailed session named message showEmpty =>
    obtain ⟨rfl, rfl⟩ : session = id ∧ named = job := by simpa [ViewEvent.showsLoad] using shows
    rw [reduce_of_accepts (by simp [accepts_snapshotFailed, active])]
    refine ⟨rfl, fun log shown => ?_⟩
    cases showEmpty with
    | true => exact (Option.some.inj shown) ▸ rfl
    | false => cases shown
  | _ => cases shows

/-! ## Runs of a viewer -/

namespace Viewer

variable {may : Leeway} {viewer : Viewer}

theorem newest?_eq_getLast? (viewer : Viewer) : viewer.newest? = viewer.sessions.getLast? := by
  unfold newest?
  cases lengthEq : viewer.sessions.length with
  | zero => simp [session?, List.length_eq_zero_iff.mp lengthEq]
  | succ n => simp [session?, List.getLast?_eq_getElem?, lengthEq]

theorem Front.idle_or_shows {gone : Prop} {id : SessionId} {view : LogView}
    {newest : Option Session} {atHand : Option (SessionId × String)}
    (front : Front gone id view newest atHand) :
    view.Idle ∨ ∃ session, newest = some session ∧ view.Shows id session := by
  cases front with
  | empty idle => exact .inl idle
  | running _ shows => exact .inr ⟨_, rfl, shows⟩
  | ended _ _ left =>
    split at left
    · exact .inr ⟨_, rfl, left⟩
    · exact .inl left
  | stopped _ left => exact left.imp_right fun ⟨_, _, shows⟩ => ⟨_, rfl, shows⟩

/-- Whoever follows a log sees it, and the log that is seen while a session is active is that of the
session opened last. -/
structure ShowsNewest (viewer : Viewer) : Prop where
  following : viewer.state.isFollowing → viewer.state.selected.isSome
  newest : viewer.state.active.isSome → ∀ log, viewer.state.selected = some log →
    viewer.sessions.getLast?.map Session.job = some log.job

theorem Coherent.showsNewest (coherent : Coherent may viewer) : viewer.ShowsNewest := by
  rcases coherent.front.idle_or_shows with idle | ⟨session, newestEq, shows⟩
  · have still : viewer.state.isFollowing = false := idle.still
    have inactive : viewer.state.active = none := idle.inactive
    constructor <;> simp [still, inactive]
  · have following : viewer.state.isFollowing = session.plan.isSome := shows.following
    have job : viewer.state.selected.map SelectedLog.job = session.plan.map fun _ => session.job :=
      shows.job
    constructor
    · intro follows
      rw [← Option.isSome_map (f := SelectedLog.job), job, Option.isSome_map, ← following, follows]
    · intro _ log selected
      rw [selected, Option.map_some, eq_comm, Option.map_eq_some_iff] at job
      obtain ⟨-, -, same⟩ := job
      rw [← newest?_eq_getLast?, newestEq, Option.map_some, same]

theorem Coherent.showsNewest_amid_load {id : SessionId} {session : Session} {event : ViewEvent}
    (coherent : Coherent may viewer) (found : viewer.session? id = some session)
    (loading : session.stage = .loading) (shows : event.showsLoad id session.job) :
    (viewer.dispatch event).ShowsNewest := by
  by_cases active : viewer.state.active = some id
  · -- An active session is the newest one, and nobody follows a log while it is a load.
    obtain rfl := coherent.front.active active
    rcases coherent.front.idle_or_shows with idle | ⟨newest, newestEq, seen⟩
    · exact absurd active (idle.active_ne _)
    · obtain rfl : session = newest := Option.some.inj (found.symm.trans newestEq)
      have still : viewer.state.isFollowing = false := by
        have following : viewer.state.isFollowing = session.plan.isSome := seen.following
        rw [following, (coherent.fits found).unplanned loading, Option.isSome_none]
      have last : viewer.sessions.getLast? = some session := by
        rw [← newest?_eq_getLast?, newestEq]
      obtain ⟨untouched, job⟩ := ViewState.reduce_of_showsLoad active shows
      constructor
      · simp [untouched, still]
      · intro _ log selected
        rw [dispatch_state] at selected
        rw [dispatch_sessions, last, Option.map_some, job log selected]
  · have refused := ViewState.accepts_of_inactive (ViewEvent.session?_of_showsLoad shows) active
    rw [dispatch_of_not_accepts viewer event refused]
    exact coherent.showsNewest

/-- After any events, a screen does not say at once that it follows a log and that it loads one; it
says neither without an active session, and loads with no log on it. In every run of a viewer that
holds as well, whoever follows a log sees it, and while a session is active, a log on the screen is
that of the session opened last. So it is when the answer to a load has been shown and the end of its
session is still to be told. -/
theorem flags_are_consistent (events : List ViewEvent) (config : ViewerConfig)
    (steps : List (Answers × Action)) (proper : ∀ step ∈ steps, step.2.isProper) :
    (ViewState.reduceAll {} events).logView.Consistent ∧
      let viewer := Viewer.run { config } steps
      (viewer.state.logView.Consistent ∧ viewer.ShowsNewest) ∧
        ∀ id session event, viewer.session? id = some session → session.stage = .loading →
          event.showsLoad id session.job →
            (viewer.dispatch event).state.logView.Consistent ∧
              (viewer.dispatch event).ShowsNewest := by
  have coherent : Coherent .full (Viewer.run { config } steps) :=
    coherent_run fun step member => .full (proper step member)
  refine ⟨ViewState.consistent_reduceAll events (LogView.Idle.consistent ⟨rfl, rfl, rfl⟩), ?_⟩
  intro viewer
  have consistent : viewer.state.logView.Consistent := by
    rcases coherent.front.idle_or_shows with idle | ⟨session, -, shows⟩
    · exact idle.consistent
    · exact shows.consistent
  refine ⟨⟨consistent, coherent.showsNewest⟩, fun id session event found loading shows => ?_⟩
  refine ⟨?_, coherent.showsNewest_amid_load found loading shows⟩
  rw [dispatch_state]
  exact ViewState.consistent_reduce consistent

theorem flags_are_consistent_amid_load :
    let steps : List (Answers × Action) := [(.bare, .toggle "old" .building), (.bare, .start 1),
      (.bare, .openStream 1 (.error .cancelled)), (.bare, .toggle "new" .success),
      (.bare, .receive 1 (some (.ok { line := "late", status := .success, isComplete := true })))]
    let shown := (Viewer.run {} steps).dispatch
      (.snapshotReceived 2 "new" { content := "built", status := .success })
    (Viewer.run {} steps).state.isLoadingLog ∧ (Viewer.run {} steps).ShowsNewest ∧
      shown.state.active = some 2 ∧ shown.state.selected.map SelectedLog.job = some "new" ∧
      shown.ShowsNewest := by
  intro steps shown
  obtain ⟨-, ⟨-, before⟩, amid⟩ := flags_are_consistent [] {} steps (by decide)
  exact ⟨rfl, before, rfl, rfl, (amid 2 _ _ rfl rfl rfl).2⟩

end Viewer

end BuildWatch
