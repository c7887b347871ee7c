import BuildWatch.Proofs.Follow.Runs

namespace BuildWatch

/-- What a session that does not run any more may still tell the host. -/
def Session.rest (session : Session) : List ViewEvent :=
  if session.stage = .loading then session.sequel else []

namespace Viewer

variable {may : Leeway} {viewer after : Viewer} {id : SessionId} {session : Session}
  {answers : Answers} {action : Action}

/-! ## Sessions that do not run any more -/

theorem act_of_unknown (unknown : viewer.session? id = none) (own : action.session? = some id) :
    viewer.act answers action = viewer := by
  cases action <;> simp only [Action.session?, reduceCtorEq, Option.some.injEq] at own <;>
    subst own <;> simp only [act, turn, unknown]

section
variable (found : viewer.session? id = some session) (own : action.session? = some id)
include found own

theorem act_of_over (finished : session.isOver) : viewer.act answers action = viewer := by
  obtain ⟨outcome, stageEq⟩ : ∃ outcome, session.stage = .over outcome := by
    unfold Session.isOver at finished
    split at finished
    · exact ⟨_, ‹_›⟩
    · simp at finished
  cases action <;> simp only [Action.session?, reduceCtorEq, Option.some.injEq] at own <;>
    subst own <;> simp only [act, turn, found, stageEq]

theorem act_of_stopped (cancelled : session.isCancelled) (live : session.stage.isLive)
    (prompt : ∀ next, session.stage ≠ .listing next) :
    viewer.act answers action = viewer ∨
      viewer.act answers action = viewer.setStage id (.over .cancelled) := by
  cases action <;> simp only [Action.session?, reduceCtorEq, Option.some.injEq] at own <;>
    subst own <;> simp only [act, turn, found, true_or]
  case start => split <;> simp [begin, conclude, cancelled]
  case openStream => split <;> simp [opened, conclude, cancelled]
  case receive => split <;> simp [received, conclude, cancelled]
  case answer =>
    split
    · simp [polled, conclude, cancelled]
    · rename_i loading
      simp [loading, Stage.isLive] at live
    · exact .inl rfl
  case wake => split <;> simp [rested, conclude, cancelled]
  case notice => split <;> simp [conclude, cancelled]

theorem act_of_loading (loading : session.stage = .loading) :
    viewer.act answers action = viewer ∨ ∃ result, action = .answer id result ∧
      viewer.act answers action = viewer.loaded id session result := by
  cases action <;> simp only [Action.session?, reduceCtorEq, Option.some.injEq] at own <;>
    subst own <;> simp only [act, turn, found, loading, true_or]
  rename_i result
  exact .inr ⟨result, rfl, rfl⟩

end

namespace Coherent

theorem apart_of_stopped_load (coherent : Coherent may viewer)
    (found : viewer.session? id = some session) (cancelled : session.isCancelled)
    (loading : session.stage = .loading) :
    viewer.state.active ≠ some id ∧ viewer.held?.map Prod.fst ≠ some id := by
  have front := coherent.front
  by_cases newest : id = viewer.sessions.length
  · subst newest
    rw [newest?, found] at front
    generalize viewer.held? = holding at front ⊢
    cases front with
    | running running => simp [Session.isRunning, cancelled] at running
    | ended _ finished => simp [loading] at finished
    | stopped _ left =>
      have idle : viewer.state.logView.Idle := left.resolve_right fun other => other.2.1 loading
      exact ⟨idle.active_ne _, by simp⟩
  · exact ⟨fun active => newest (front.active active), fun held => newest (front.held_fst held)⟩

theorem loaded_of_stopped (coherent : Coherent may viewer)
    (found : viewer.session? id = some session) (cancelled : session.isCancelled)
    (loading : session.stage = .loading) (result : Except Fault Snapshot) :
    ∃ outcome, viewer.loaded id session result =
      (viewer.setStage id (.over outcome)).dispatchAll session.sequel := by
  obtain ⟨inactive, free⟩ := coherent.apart_of_stopped_load found cancelled loading
  refine ⟨(viewer.showLoaded id session result).2, ?_⟩
  rw [loaded_eq, viewer.showLoaded_of_stopped id result cancelled inactive, release_of_free]
  exact free

theorem act_of_halted (coherent : Coherent may viewer)
    (found : viewer.session? id = some session) (own : action.session? = some id)
    (halted : session.isRunning = false) (prompt : ∀ next, session.stage ≠ .listing next) :
    viewer.act answers action = viewer ∨ ∃ outcome, viewer.act answers action =
      (viewer.setStage id (.over outcome)).dispatchAll session.rest := by
  cases finished : session.isOver with
  | true => exact .inl (act_of_over found own finished)
  | false =>
    have cancelled : session.isCancelled := by simpa [Session.isRunning, finished] using halted
    by_cases loading : session.stage = .loading
    · refine (act_of_loading found own loading).imp_right ?_
      rintro ⟨result, -, acted⟩
      rw [acted, Session.rest, if_pos loading]
      exact coherent.loaded_of_stopped found cancelled loading result
    · have live : session.stage.isLive := by
        unfold Session.isOver at finished
        unfold Stage.isLive
        split <;> simp_all
      refine (act_of_stopped found own cancelled live prompt).imp_right fun acted =>
        ⟨.cancelled, ?_⟩
      rw [acted, Session.rest, if_neg loading]
      rfl

end Coherent

/-! ## Stops -/

def stops (viewer : Viewer) (answers : Answers) : Action → Bool
  | .toggle .. | .openJob .. | .cancel => true
  | .enter challenge target =>
    (challenge.filter (· ≠ "")).any (fun id => (answers.challenge id).isOk) && target.isSome
  | .drop => !viewer.isLoading
  | _ => false

theorem Grows.stop_toggle (job : String) (status : Status) (sequel : List ViewEvent) :
    viewer.stop.Grows (viewer.toggle job status sequel).1 := by
  unfold toggle
  split
  · exact .of_sessions (by simp)
  · have opened := Grows.takeOver viewer.stop job status sequel
    dsimp only
    split <;> exact opened.trans (.of_sessions (by simp [call]))

theorem Coherent.isCancelled_of_stops (coherent : Coherent may viewer)
    (held : viewer.current.map Slot.session = some id) (stops : viewer.stops answers action) :
    ∃ session, (viewer.act answers action).session? id = some session ∧ session.isCancelled := by
  rw [current_session] at held
  obtain ⟨session, found⟩ := coherent.session_of_held held
  -- To stop may be preceded by something that no session depends on.
  have stopped {prepared after : Viewer} (alike : Alike viewer prepared)
      (growth : prepared.stop.Grows after) :
      ∃ later, after.session? id = some later ∧ later.isCancelled := by
    have cancelled : prepared.stop.session? id = some { session with isCancelled := true } := by
      rw [session?_stop, alike.session?, found, alike.held, held]
      simp
    obtain ⟨later, found, further⟩ := growth cancelled
    exact ⟨later, found, further.cancelled rfl⟩
  cases action with
  | toggle job status => exact stopped (.refl viewer) (.stop_toggle job status [])
  | openJob job known => exact stopped (.refl viewer) (.stop_toggle job _ [])
  | enter challenge target =>
    simp only [Viewer.stops, Bool.and_eq_true, Option.any_eq_true] at stops
    obtain ⟨⟨name, given, answered⟩, targeted⟩ := stops
    obtain ⟨job, rfl⟩ := Option.isSome_iff_exists.mp targeted
    cases answer : answers.challenge name with
    | error fault => simp [answer, Except.isOk, Except.toBool] at answered
    | ok challenge =>
      obtain ⟨prepared, alike, opens⟩ :=
        viewer.enter_of_found job given answer
      rw [act, opens]
      exact stopped alike (.stop_toggle job _ _)
  | cancel =>
    cases atHand : viewer.current with
    | none => simp [held?, atHand] at held
    | some slot =>
      refine stopped (.refl viewer) (.of_sessions ?_)
      simp [act, cancel, atHand]
  | drop =>
    have settled : viewer.isLoading = false := by simpa [Viewer.stops] using stops
    refine stopped (.refl viewer) (.of_sessions ?_)
    simp [act, settled]
  | _ => simp [Viewer.stops] at stops

/-! ## Runs with a stop -/

/-- A session that was at hand when it was stopped is inert ever after: its turns call nothing,
scroll nothing, and leave the log view as it is. -/
theorem stopped_session_is_inert (config : ViewerConfig) (before after : List (Answers × Action))
    (stop turn : Answers × Action) (id : SessionId)
    (proper : ∀ step ∈ before ++ stop :: after, step.2.isProper)
    (prompt : ∀ step ∈ before ++ stop :: after, step.1.delaysList = false)
    (held : (Viewer.run { config } before).current.map Slot.session = some id)
    (stops : (Viewer.run { config } before).stops stop.1 stop.2)
    (own : turn.2.session? = some id) :
    let viewer := Viewer.run { config } (before ++ stop :: after)
    (viewer.act turn.1 turn.2).calls = viewer.calls ∧
      (viewer.act turn.1 turn.2).scrolls = viewer.scrolls ∧
      (viewer.act turn.1 turn.2).state.logView = viewer.state.logView := by
  let may : Leeway := { leave := True, wait := False, abort := True }
  have permitted : ∀ step ∈ before ++ stop :: after, Permits may step := fun step member =>
    { proper := proper step member
      leaves := fun _ => trivial
      waits := fun delayed => by simp [prompt step member] at delayed
      aborts := fun _ => trivial }
  have start : Coherent may (Viewer.run { config } before) :=
    coherent_run fun step member => permitted step (by simp [member])
  obtain ⟨session, found, cancelled⟩ := start.isCancelled_of_stops held stops
  have stopped := (start.act_moves (permitted stop (by simp))).coherent start
  have growth := (stopped.run_moves after fun step member =>
    permitted step (by simp [member])).grows
  obtain ⟨later, found, further⟩ := growth found
  have coherent : Coherent may (Viewer.run { config } (before ++ stop :: after)) :=
    coherent_run permitted
  rw [← run_cons, ← run_append] at found
  intro viewer
  have fits := coherent.fits found
  have halted : later.isRunning = false := by simp [Session.isRunning, further.cancelled cancelled]
  have settled (next : Option Nat) : later.stage ≠ .listing next := by
    intro listing
    have said := fits.2
    rw [listing] at said
    exact said.2
  have spare : ∀ event ∈ later.rest, event.sparesLog := by
    unfold Session.rest
    split
    · exact fits.1
    · simp
  rcases coherent.act_of_halted found own halted settled with same | ⟨outcome, ended⟩
  · rw [same]
    exact ⟨rfl, rfl, rfl⟩
  · rw [ended]
    exact ⟨by simp; rfl, by simp; rfl, (Alike.dispatchAll spare).logView⟩

theorem late_stream_is_inert :
    let steps : List (Answers × Action) :=
      [(.bare, .toggle "old" .building), (.bare, .start 1)] ++ (.bare, .toggle "new" .building) ::
        [(.bare, .start 2), (.bare, .openStream 2 (.ok 7))]
    let viewer := Viewer.run {} steps
    (viewer.act .bare (.openStream 1 (.ok 5))).calls = viewer.calls ∧
      (viewer.act .bare (.openStream 1 (.ok 5))).scrolls = viewer.scrolls ∧
      (viewer.act .bare (.openStream 1 (.ok 5))).state.logView = viewer.state.logView :=
  stopped_session_is_inert {} [(.bare, .toggle "old" .building), (.bare, .start 1)]
    [(.bare, .start 2), (.bare, .openStream 2 (.ok 7))] (.bare, .toggle "new" .building)
    (.bare, .openStream 1 (.ok 5)) 1 (by decide) (by decide) (by decide) (by decide) rfl

end Viewer

end BuildWatch
