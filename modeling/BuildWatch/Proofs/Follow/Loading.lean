import BuildWatch.Proofs.Follow.Stages

namespace BuildWatch.Viewer

variable {viewer : Viewer} {id : SessionId} {session : Session} {answers : Answers}
  {action : Action} {job : String} {status : Status} {result : Except Fault Snapshot}
  {steps : List (Answers × Action)}

def stopsWithin (viewer : Viewer) : List (Answers × Action) → Bool
  | [] => false
  | step :: rest => viewer.stops step.1 step.2 || (viewer.act step.1 step.2).stopsWithin rest

theorem stops_of_turn {other : SessionId} (own : action.session? = some other) :
    viewer.stops answers action = false := by
  cases action <;> first | rfl | cases own

theorem session?_act_of_foreign {other : SessionId} (own : action.session? = some other)
    (differs : id ≠ other) : (viewer.act answers action).session? id = viewer.session? id := by
  rcases restaged_of_turn viewer answers own with same | ⟨stage, -, changed⟩
  · exact session?_congr id same
  · rw [session?_congr id changed, session?_setStage]
    simp [differs]

/-! ## Silence -/

theorem Coherent.silent_of_unplanned (coherent : Coherent .full viewer)
    (found : viewer.session? id = some session) (unplanned : session.plan = none)
    (own : action.session? = some id) :
    (viewer.act answers action).calls = viewer.calls ∧
      (viewer.act answers action).scrolls = viewer.scrolls := by
  cases finished : session.isOver with
  | true =>
    rw [act_of_over found own finished]
    exact ⟨rfl, rfl⟩
  | false =>
    have loading : session.stage = .loading := by
      have said := (coherent.fits found).2
      cases stageEq : session.stage <;> simp_all [Session.isOver]
    rcases act_of_loading found own loading with same | ⟨result, -, acted⟩
    · rw [same]
      exact ⟨rfl, rfl⟩
    · rw [acted]
      exact ⟨loaded_calls, loaded_scrolls⟩

/-! ## Between the request and its answer -/

structure InFlight (viewer : Viewer) (id : SessionId) (session : Session) : Prop where
  coherent : Coherent .full viewer
  found : viewer.session? id = some session
  loading : session.stage = .loading
  sequel : session.sequel = []

namespace InFlight

theorem of_toggle (answers : Answers) (coherent : Coherent .full viewer)
    (hidden : viewer.isDisplayed job = false) (idle : status.isLive = false) :
    InFlight (viewer.act answers (.toggle job status)) (viewer.sessions.length + 1)
        (viewer.stop.newcomer job status []) ∧
      (viewer.act answers (.toggle job status)).calls = viewer.calls ++ [.snapshot job] ∧
      (viewer.act answers (.toggle job status)).scrolls = viewer.scrolls := by
  have unplanned (config : ViewerConfig) : Plan.forStatus? config status = none := by
    simp [Plan.forStatus?, idle]
  have after : Coherent .full (viewer.act answers (.toggle job status)) := coherent.act_full rfl
  rw [Viewer.act, toggle_of_unplanned hidden (unplanned viewer.config)] at after ⊢
  refine ⟨⟨after, ?_, by simp [newcomer, unplanned], by simp [newcomer]⟩, ?_, ?_⟩
  · have asked : Alike (viewer.stop.takeOver job status [])
        ((viewer.stop.takeOver job status []).call (.snapshot job)) := .call _
    rw [asked.session?, session?_takeOver, stop_sessions_length, if_pos rfl]
  · change viewer.stop.calls ++ _ = _
    rw [stop_calls]
  · exact stop_scrolls viewer

section
variable (pending : InFlight viewer id session)
include pending

theorem front (uncancelled : session.isCancelled = false) :
    viewer.state.logView.Shows id session ∧ viewer.held? = some (id, session.job) :=
  pending.coherent.front_of_isRunning pending.found
    (Session.isRunning_of_loading pending.loading uncancelled)

theorem act_answer (answers : Answers) (result : Except Fault Snapshot) :
    viewer.act answers (.answer id result) = viewer.loaded id session result := by
  simp only [Viewer.act, turn, pending.found, pending.loading]

theorem act (answers : Answers) (proper : action.isProper)
    (unanswered : ∀ result, action ≠ .answer id result) :
    ∃ later, InFlight (viewer.act answers action) id later ∧ later.job = session.job ∧
      later.plan = session.plan ∧
      later.isCancelled = (session.isCancelled || viewer.stops answers action) := by
  have coherent : Coherent .full (viewer.act answers action) := pending.coherent.act_full proper
  cases own : action.session? with
  | none =>
    have found := session?_act_of_host own proper answers pending.found
    refine ⟨_, ⟨coherent, found, ?_, ?_⟩, ?_⟩
    · split <;> exact pending.loading
    · split <;> exact pending.sequel
    · cases cancelled : session.isCancelled with
      | true => split <;> simp [cancelled]
      | false =>
        -- A load that goes on is the session at hand, so the host cannot stop any other.
        have held : viewer.held?.map Prod.fst = some id := by
          rw [(pending.front cancelled).2, Option.map_some]
        cases stops : viewer.stops answers action <;> simp [held, cancelled]
  | some other =>
    refine ⟨session, ⟨coherent, ?_, pending.loading, pending.sequel⟩, rfl, rfl, ?_⟩
    · by_cases same : id = other
      · have idle : viewer.act answers action = viewer := by
          refine (act_of_loading pending.found (same ▸ own) pending.loading).resolve_right ?_
          rintro ⟨result, answered, -⟩
          exact unanswered result answered
        rw [idle, pending.found]
      · rw [session?_act_of_foreign own same, pending.found]
    · rw [stops_of_turn own, Bool.or_false]

theorem run (proper : ∀ step ∈ steps, step.2.isProper)
    (unanswered : ∀ step ∈ steps, ∀ result, step.2 ≠ .answer id result) :
    ∃ later, InFlight (viewer.run steps) id later ∧ later.job = session.job ∧
      later.plan = session.plan ∧
      later.isCancelled = (session.isCancelled || viewer.stopsWithin steps) := by
  induction steps generalizing viewer session with
  | nil => exact ⟨session, pending, rfl, rfl, by simp [stopsWithin]⟩
  | cons step rest ih =>
    obtain ⟨first, others⟩ := List.forall_mem_cons.mp proper
    obtain ⟨quiet, othersQuiet⟩ := List.forall_mem_cons.mp unanswered
    obtain ⟨next, flying, job, plan, cancelled⟩ := pending.act step.1 first quiet
    obtain ⟨later, last, jobs, plans, stopped⟩ := ih flying others othersQuiet
    refine ⟨later, last, jobs.trans job, plans.trans plan, ?_⟩
    rw [stopped, cancelled, stopsWithin, Bool.or_assoc]

theorem shows_loading (unplanned : session.plan = none)
    (uncancelled : session.isCancelled = false) :
    viewer.state.selected = none ∧ viewer.state.isLoadingLog = true ∧
      viewer.state.isFollowing = false := by
  obtain ⟨shows, -⟩ := pending.front uncancelled
  have bare : viewer.state.selected.map SelectedLog.job = session.plan.map fun _ => session.job :=
    shows.job
  refine ⟨?_, ?_, ?_⟩
  · simpa [unplanned] using bare
  · exact shows.loading.trans (by simp [unplanned])
  · exact shows.following.trans (by simp [unplanned])

theorem answered (answers : Answers) (uncancelled : session.isCancelled = false)
    (heard : result ≠ .error .cancelled) :
    (viewer.act answers (.answer id result)).state = viewer.state.afterLoad session.job result ∧
      (viewer.act answers (.answer id result)).current = none := by
  obtain ⟨shows, held⟩ := pending.front uncancelled
  rw [pending.act_answer]
  constructor
  · rw [loaded_state _ _ _ pending.sequel]
    exact (viewer.showLoaded_of_active id uncancelled shows.active heard).1
  · have free := viewer.loaded_held? id result pending.sequel (by rw [held, Option.map_some])
    simpa [held?] using free

theorem unheard (answers : Answers) (cancelled : session.isCancelled) :
    (viewer.act answers (.answer id result)).state = viewer.state ∧
      (viewer.act answers (.answer id result)).current = viewer.current := by
  obtain ⟨outcome, loaded⟩ := pending.coherent.loaded_of_stopped pending.found cancelled
    pending.loading result
  rw [pending.act_answer, loaded, pending.sequel]
  exact ⟨rfl, rfl⟩

end

end InFlight

/-- A load asks once, for the log of its job, and requests no scroll. It shows that it is loading
until it is stopped or has its answer, which is shown if it has not been stopped; and once it has
been stopped, no answer changes the screen or the session at hand. -/
theorem load_shows_unless_stopped (start : Viewer) (opening : Answers) (job : String)
    (status : Status) (reached : start.Reachable) (hidden : start.isDisplayed job = false)
    (idle : status.isLive = false) :
    let id := start.sessions.length + 1
    let opened := start.act opening (.toggle job status)
    (opened.calls = start.calls ++ [.snapshot job] ∧ opened.scrolls = start.scrolls ∧
      ∀ (steps : List (Answers × Action)) (turn : Answers × Action),
        (∀ step ∈ steps, step.2.isProper) → turn.2.session? = some id →
        ((opened.run steps).act turn.1 turn.2).calls = (opened.run steps).calls ∧
          ((opened.run steps).act turn.1 turn.2).scrolls = (opened.run steps).scrolls) ∧
    ∀ between : List (Answers × Action), (∀ step ∈ between, step.2.isProper) →
      (∀ step ∈ between, ∀ result, step.2 ≠ .answer id result) →
      let pending := opened.run between
      (opened.stopsWithin between = false →
        (pending.state.selected = none ∧ pending.state.isLoadingLog = true ∧
          pending.state.isFollowing = false) ∧
        ∀ answers result, result ≠ .error .cancelled →
          (pending.act answers (.answer id result)).state = pending.state.afterLoad job result ∧
            (pending.act answers (.answer id result)).current = none) ∧
      (opened.stopsWithin between = true → ∀ answers result,
        (pending.act answers (.answer id result)).state = pending.state ∧
          (pending.act answers (.answer id result)).current = pending.current) := by
  intro id opened
  have unplanned : (start.stop.newcomer job status []).plan = none := by
    simp [newcomer, Plan.forStatus?, idle]
  obtain ⟨flying, calls, scrolls⟩ := InFlight.of_toggle opening reached.coherent hidden idle
  refine ⟨⟨calls, scrolls, fun steps turn proper own => ?_⟩, fun between proper unanswered => ?_⟩
  · have moves := flying.coherent.run_moves steps fun step member => .full (proper step member)
    obtain ⟨later, found, grows⟩ := moves.grows flying.found
    exact (moves.coherent flying.coherent).silent_of_unplanned found
      (grows.plan.trans unplanned) own
  · obtain ⟨later, pending, jobEq, plan, stopped⟩ := flying.run proper unanswered
    rw [show (start.stop.newcomer job status []).isCancelled = false from rfl,
      Bool.false_or] at stopped
    obtain rfl : later.job = job := jobEq
    constructor
    · intro undisturbed
      have uncancelled := stopped.trans undisturbed
      exact ⟨pending.shows_loading (plan.trans unplanned) uncancelled,
        fun answers result heard => pending.answered answers uncancelled heard⟩
    · intro disturbed answers result
      exact pending.unheard answers (stopped.trans disturbed)

theorem load_replaced_by_its_like :
    let opened := ({} : Viewer).act .bare (.toggle "j" .success)
    let peaceful := opened.run [(.bare, .setChallenge (some "c")), (.bare, .drop)]
    let replaced := opened.run [(.bare, .cancel), (.bare, .toggle "j" .failed)]
    (peaceful.act .bare (.answer 1 (.error (.notFound "j")))).state =
        peaceful.state.afterLoad "j" (.error (.notFound "j")) ∧
      (replaced.act .bare (.answer 1 (.ok ⟨"late", .success⟩))).state = replaced.state ∧
      (replaced.act .bare (.answer 1 (.ok ⟨"late", .success⟩))).current = replaced.current ∧
      replaced.current = some { session := 2, job := "j" } :=
  have loading := load_shows_unless_stopped {} .bare "j" .success ⟨{}, [], by simp, rfl⟩ rfl rfl
  have quiet {steps : List (Answers × Action)} (host : ∀ step ∈ steps, step.2.session? = none) :
      ∀ step ∈ steps, ∀ result, step.2 ≠ .answer 1 result := by
    intro step member result same
    simpa [same, Action.session?] using host step member
  have peace := (loading.2 [(.bare, .setChallenge (some "c")), (.bare, .drop)] (by decide)
    (quiet (by decide))).1 (by decide)
  have late := (loading.2 [(.bare, .cancel), (.bare, .toggle "j" .failed)] (by decide)
    (quiet (by decide))).2 (by decide) .bare (.ok ⟨"late", .success⟩)
  ⟨(peace.2 .bare (.error (.notFound "j")) (by simp)).1, late.1, late.2, by decide⟩

end BuildWatch.Viewer
