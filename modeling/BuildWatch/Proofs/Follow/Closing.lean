import BuildWatch.Proofs.Follow.Told

namespace BuildWatch

/-- The first answer that a run has for the request of a session for a log. -/
def answerTo? (id : SessionId) (steps : List (Answers × Action)) :
    Option (Except Fault Snapshot) :=
  steps.findSome? fun step =>
    match step.2 with
    | .answer other result => if other = id then some result else none
    | _ => none

theorem answerTo?_cons_of_ne {id : SessionId} {step : Answers × Action}
    (unanswered : ∀ result, step.2 ≠ .answer id result) (rest : List (Answers × Action)) :
    answerTo? id (step :: rest) = answerTo? id rest := by
  obtain ⟨answers, action⟩ := step
  cases action with
  | answer other result =>
    have differs : other ≠ id := by
      rintro rfl
      exact unanswered result rfl
    simp [answerTo?, differs]
  | _ => rfl

namespace Viewer

variable {viewer after : Viewer} {id : SessionId} {session : Session} {answers : Answers}
  {action : Action} {job : String} {step : Answers × Action} {steps : List (Answers × Action)}

/-! ## Runs that toggle nothing -/

def isUntoggled (viewer : Viewer) : List (Answers × Action) → Bool
  | [] => true
  | step :: rest =>
    (viewer.toggles? step.1 step.2).isNone && (viewer.act step.1 step.2).isUntoggled rest

theorem isUntoggled_cons : viewer.isUntoggled (step :: steps) ↔
    viewer.toggles? step.1 step.2 = none ∧ (viewer.act step.1 step.2).isUntoggled steps := by
  simp [isUntoggled]

theorem act_of_untoggled (host : action.session? = none) (proper : action.isProper)
    (untoggled : viewer.toggles? answers action = none) :
    Alike viewer (viewer.act answers action) ∨ viewer.held?.isSome ∧
      (viewer.act answers action = viewer.stop.dispatch .sessionCancelled ∨
        viewer.act answers action = viewer.stop) := by
  cases stops : viewer.stops answers action with
  | false => exact .inl (.act_of_host host proper stops)
  | true =>
    cases action with
    | toggle | openJob => simp [toggles?] at untoggled
    | enter challenge target =>
      simp only [Viewer.stops, Bool.and_eq_true, Option.any_eq_true] at stops
      obtain ⟨⟨name, given, answered⟩, targeted⟩ := stops
      obtain ⟨job, rfl⟩ := Option.isSome_iff_exists.mp targeted
      rw [toggles?, given] at untoggled
      simp [answered] at untoggled
    | cancel =>
      cases atHand : viewer.current with
      | none =>
        refine .inl ?_
        simp only [act, cancel, atHand]
        exact .refl viewer
      | some slot =>
        refine .inr ⟨by simp [held?, atHand], .inl ?_⟩
        simp only [act, cancel, atHand]
    | drop =>
      have settled : viewer.isLoading = false := by simpa [Viewer.stops] using stops
      have left : viewer.act answers .drop = viewer.stop := by simp [act, settled]
      rw [left]
      cases atHand : viewer.current with
      | none =>
        refine .inl ?_
        simp only [stop, atHand]
        exact .refl viewer
      | some slot => exact .inr ⟨by simp [held?, atHand], .inr rfl⟩
    | _ => simp [Viewer.stops] at stops

/-! ## The session that has been opened -/

/-- The newest session has its log on screen, or else it is loading it. -/
structure OnScreen (viewer : Viewer) (id : SessionId) (session : Session) : Prop where
  coherent : Coherent .full viewer
  newest : id = viewer.sessions.length
  found : viewer.session? id = some session
  sequel : session.sequel = []
  shown : viewer.state.selected.map SelectedLog.job = some session.job ∨
    session.stage = .loading ∧ session.isCancelled = false

namespace OnScreen

theorem of_toggle (coherent : Coherent .full viewer) (hidden : viewer.isDisplayed job = false)
    (status : Status) :
    OnScreen (viewer.toggle job status []).1 (viewer.sessions.length + 1)
      (viewer.stop.newcomer job status []) := by
  have opened : Alike (viewer.stop.takeOver job status []) (viewer.toggle job status []).1 :=
    .toggle_of_hidden hidden
  refine ⟨(coherent.takeOver (by simp)).alike opened, ?_, ?_, by simp [newcomer], ?_⟩
  · simp [opened.sessions]
  · rw [opened.session?, session?_takeOver, stop_sessions_length, if_pos rfl]
  · rw [opened.selected, takeOver_state, stop_config, ViewState.reduce_of_accepts rfl]
    cases planned : Plan.forStatus? viewer.config status with
    | some plan => exact .inl rfl
    | none => exact .inr ⟨by simp [newcomer, planned], rfl⟩

section
variable (onScreen : OnScreen viewer id session)
include onScreen

theorem isDisplayed : viewer.isDisplayed session.job := by
  unfold Viewer.isDisplayed
  rcases onScreen.shown with shown | ⟨loading, uncancelled⟩
  · obtain ⟨log, selected, same⟩ := Option.map_eq_some_iff.mp shown
    simp [selected, same]
  · have running := Session.isRunning_of_loading loading uncancelled
    obtain ⟨shows, held⟩ := onScreen.coherent.front_of_isRunning onScreen.found running
    have unplanned := (onScreen.coherent.fits onScreen.found).unplanned loading
    have bare : viewer.state.selected = none := by
      have shown : viewer.state.selected.map SelectedLog.job = _ := shows.job
      simpa [unplanned] using shown
    rw [bare]
    exact beq_iff_eq.mpr (activeJob_eq_some.mpr ⟨id, held, shows.active⟩)

theorem act_of_foreign (answers : Answers) (proper : action.isProper)
    (untoggled : viewer.toggles? answers action = none) (foreign : action.session? ≠ some id) :
    (viewer.act answers action).sessions.length = viewer.sessions.length ∧
      (viewer.act answers action).state.selected = viewer.state.selected ∧
      ∃ later, (viewer.act answers action).session? id = some later ∧
        later.stage = session.stage := by
  have found := onScreen.found
  cases own : action.session? with
  | none =>
    have stopped (sessions : (viewer.act answers action).sessions = viewer.stop.sessions) :
        (viewer.act answers action).sessions.length = viewer.sessions.length ∧
          ∃ later, (viewer.act answers action).session? id = some later ∧
            later.stage = session.stage := by
      refine ⟨by simp [sessions], ?_⟩
      rw [session?_congr id sessions, session?_stop, found, Option.map_some]
      refine ⟨_, rfl, ?_⟩
      split <;> rfl
    rcases act_of_untoggled own proper untoggled with alike | ⟨-, cancelled | left⟩
    · exact ⟨by rw [alike.sessions], alike.selected, session, alike.session?.trans found, rfl⟩
    · obtain ⟨length, kept⟩ := stopped (by rw [cancelled, dispatch_sessions])
      refine ⟨length, ?_, kept⟩
      rw [cancelled, dispatch_state, stop_state]
      rfl
    · obtain ⟨length, kept⟩ := stopped (by rw [left])
      exact ⟨length, by rw [left, stop_state], kept⟩
  | some other =>
    have differs : id ≠ other := fun same => foreign (same ▸ own)
    have apart : Apart other viewer (viewer.act answers action) :=
      onScreen.coherent.act_of_older own (onScreen.newest ▸ differs.symm)
    exact ⟨apart.length, congrArg LogView.selected apart.logView, session,
      (apart.sessions id differs).trans found, rfl⟩

theorem act_of_answer {result : Except Fault Snapshot} (answers : Answers)
    (loading : session.stage = .loading) (uncancelled : session.isCancelled = false)
    (missing : ∀ fault, result = .error fault → fault.isNotFound) :
    (viewer.act answers (.answer id result)).sessions.length = viewer.sessions.length ∧
      (viewer.act answers (.answer id result)).state.selected.map SelectedLog.job =
        some session.job ∧
      ∃ outcome, (viewer.act answers (.answer id result)).session? id =
        some { session with stage := .over outcome } := by
  have acted : viewer.act answers (.answer id result) = viewer.loaded id session result := by
    simp only [Viewer.act, turn, onScreen.found, loading]
  have running := Session.isRunning_of_loading loading uncancelled
  obtain ⟨shows, -⟩ := onScreen.coherent.front_of_isRunning onScreen.found running
  have heard : result ≠ .error .cancelled := by
    intro givenUp
    simpa [Fault.isNotFound] using missing _ givenUp
  have told := (viewer.showLoaded_of_active id uncancelled shows.active heard).1
  have sessions := viewer.loaded_sessions id session result
  rw [acted]
  refine ⟨by rw [sessions, setStage_sessions_length], ?_, _,
    (session?_congr id sessions).trans (session?_setStage_self onScreen.found)⟩
  rw [loaded_state _ _ _ onScreen.sequel, told]
  cases result with
  | ok snapshot => rfl
  | error fault => simp [ViewState.afterLoad, loadedLog, missing fault rfl]

theorem act (proper : action.isProper) (untoggled : viewer.toggles? answers action = none)
    (loads : session.stage = .loading → (viewer.act answers action).isUnstopped id ∧
      ∀ fault, action = .answer id (.error fault) → fault.isNotFound) :
    ∃ later, OnScreen (viewer.act answers action) id later ∧ later.job = session.job ∧
      (later.stage = .loading →
        session.stage = .loading ∧ ∀ result, action ≠ .answer id result) := by
  have coherent : Coherent .full (viewer.act answers action) :=
    onScreen.coherent.act_full proper
  have moves : Moves .full viewer (viewer.act answers action) :=
    onScreen.coherent.act_moves (.full proper)
  obtain ⟨later, found, grows⟩ := moves.grows onScreen.found
  have began (loading : later.stage = .loading) : session.stage = .loading :=
    grows.loading (onScreen.coherent.fits onScreen.found) (coherent.fits found) loading
  have remains (length : (viewer.act answers action).sessions.length = viewer.sessions.length)
      (shown : (viewer.act answers action).state.selected.map SelectedLog.job =
        some session.job ∨ later.stage = .loading ∧ later.isCancelled = false) :
      OnScreen (viewer.act answers action) id later := by
    refine ⟨coherent, ?_, found, ?_, ?_⟩
    · rw [length, onScreen.newest]
    · rw [grows.sequel, onScreen.sequel]
    · rwa [grows.job]
  by_cases own : action.session? = some id
  · by_cases loading : session.stage = .loading
    · have uncancelled : session.isCancelled = false := by
        simpa [isUnstopped, onScreen.found] using moves.grows.isUnstopped (loads loading).1
      by_cases answered : ∃ result, action = .answer id result
      · obtain ⟨result, rfl⟩ := answered
        obtain ⟨length, shown, outcome, ended⟩ :=
          onScreen.act_of_answer answers loading uncancelled fun fault given =>
            (loads loading).2 fault (given ▸ rfl)
        obtain rfl : later = { session with stage := .over outcome } :=
          Option.some.inj (found.symm.trans ended)
        exact ⟨_, remains length (.inl shown), rfl, fun still => by cases still⟩
      · have idle : viewer.act answers action = viewer := by
          refine (act_of_loading onScreen.found own loading).resolve_right ?_
          rintro ⟨result, given, -⟩
          exact answered ⟨result, given⟩
        rw [idle]
        exact ⟨session, onScreen, rfl, fun _ => ⟨loading, fun result given =>
          answered ⟨result, given⟩⟩⟩
    · have told : Told (ViewEvent.isOfLive session.job) viewer (viewer.act answers action) :=
        .act_of_planned onScreen.found own loading
      have shown := onScreen.shown.resolve_right fun waiting => loading waiting.1
      exact ⟨later, remains told.length (.inl (told.job shown)), grows.job, fun waiting =>
        absurd (began waiting) loading⟩
  · obtain ⟨length, selected, same, located, stage⟩ :=
      onScreen.act_of_foreign answers proper untoggled own
    obtain rfl : later = same := Option.some.inj (found.symm.trans located)
    refine ⟨later, remains length ?_, grows.job, fun waiting => ⟨began waiting, ?_⟩⟩
    · rw [selected]
      refine onScreen.shown.imp_right fun waiting => ⟨stage.trans waiting.1, ?_⟩
      simpa [isUnstopped, found] using (loads waiting.1).1
    · rintro result rfl
      exact own rfl

theorem run (proper : ∀ step ∈ steps, step.2.isProper) (untoggled : viewer.isUntoggled steps)
    (loads : session.stage = .loading → (viewer.run steps).isUnstopped id ∧
      ∀ fault, answerTo? id steps = some (.error fault) → fault.isNotFound) :
    ∃ later, OnScreen (viewer.run steps) id later ∧ later.job = session.job := by
  induction steps generalizing viewer session with
  | nil => exact ⟨session, onScreen, rfl⟩
  | cons step rest ih =>
    obtain ⟨first, others⟩ := List.forall_mem_cons.mp proper
    obtain ⟨none, remaining⟩ := isUntoggled_cons.mp untoggled
    have coherent : Coherent .full (viewer.act step.1 step.2) := onScreen.coherent.act_full first
    have moves := coherent.run_moves rest fun other member => .full (others other member)
    obtain ⟨next, nextOnScreen, jobEq, waiting⟩ := onScreen.act first none fun loading => by
      obtain ⟨unstopped, found⟩ := loads loading
      refine ⟨moves.grows.isUnstopped unstopped, fun fault given => found fault ?_⟩
      simp [answerTo?, given]
    obtain ⟨later, laterOnScreen, same⟩ := ih nextOnScreen others remaining fun loading => by
      obtain ⟨began, unanswered⟩ := waiting loading
      obtain ⟨unstopped, found⟩ := loads began
      refine ⟨unstopped, fun fault given => found fault ?_⟩
      rw [answerTo?_cons_of_ne unanswered, given]
    exact ⟨later, laterOnScreen, same.trans jobEq⟩

end

end OnScreen

/-! ## The session that has been closed -/

/-- What a toggle that closes a job does: it takes the log off the screen, and nothing else. -/
structure Closes (viewer : Viewer) (toggled : Viewer × Opened) : Prop where
  answer : toggled.2 = .closed
  calls : toggled.1.calls = viewer.calls
  scrolls : toggled.1.scrolls = viewer.scrolls
  state : toggled.1.state = { viewer.state with
    selected := none
    active := none
    isFollowing := false
    isLoadingLog := false }

/-- An action says nothing to anyone, save that it may bring the list that a session waits for. -/
structure Mute (viewer : Viewer) (id : SessionId) (waits : Bool) (step : Answers × Action) :
    Prop where
  calls : (viewer.act step.1 step.2).calls = viewer.calls
  scrolls : (viewer.act step.1 step.2).scrolls = viewer.scrolls
  state : (viewer.act step.1 step.2).state = viewer.state ∨
    waits ∧ ∃ result, step.2 = .listed id result ∧
      (viewer.act step.1 step.2).state = (viewer.listAnswered result).1.state

structure Closed (viewer : Viewer) (id : SessionId) (session : Session) : Prop where
  coherent : Coherent .full viewer
  found : viewer.session? id = some session
  halted : session.isRunning = false
  sequel : session.sequel = []
  inactive : viewer.state.active ≠ some id

theorem closes_of_displayed (displayed : viewer.isDisplayed job) (status : Status) :
    Closes viewer (viewer.toggle job status []) := by
  have closes : viewer.toggle job status [] = (viewer.stop.dispatch .logClosed, .closed) := by
    simp [toggle, displayed, dispatchAll]
  rw [closes]
  refine ⟨rfl, stop_calls viewer, stop_scrolls viewer, ?_⟩
  rw [dispatch_state, stop_state]
  rfl

theorem Move.inactive (move : Move .full viewer after) (coherent : Coherent .full viewer)
    (found : viewer.session? id = some session) (inactive : viewer.state.active ≠ some id) :
    after.state.active ≠ some id := by
  have told {before : Viewer} {event : ViewEvent} (unopened : event.opens = false)
      (same : before.state = viewer.state) : (before.dispatch event).state.active ≠ some id := by
    have tells : Told (!ViewEvent.opens ·) before (before.dispatch event) :=
      .dispatch (by simp [unopened])
    exact tells.inactive (same ▸ inactive)
  cases move with
  | aside alike => rwa [alike.active]
  | advance => exact inactive
  | @conclude teller _ outcome =>
    have tells : Told (ViewEvent.isOfLive "") viewer (viewer.conclude teller outcome) :=
      .conclude outcome
    exact (tells.mono fun _ live => by simp [ViewEvent.opens_of_isOfLive live]).inactive inactive
  | chunk | snapshot => exact told rfl rfl
  | @loaded teller entry result located =>
    have tells : Told (!ViewEvent.opens ·) viewer (viewer.loaded teller entry result) :=
      .loaded (fun _ loads => by simp [ViewEvent.opens_of_isOfLoad loads])
        (fun event member => by
          simp [ViewEvent.opens_of_sparesLog ((coherent.fits located).1 event member)]) result
    exact tells.inactive inactive
  | close | leave => exact told rfl (stop_state viewer)
  | drop => rwa [stop_state]
  | takeOver =>
    have bound : id ≠ viewer.sessions.length + 1 :=
      Nat.ne_of_lt (Nat.lt_succ_of_le (session?_bounds found).2)
    rw [takeOver_active, stop_sessions_length]
    simpa using bound.symm

namespace Closed

theorem of_moves (closed : Closed viewer id session) (moves : Moves .full viewer after) :
    ∃ later, Closed after id later ∧ (later.isListing → session.isListing) := by
  induction moves with
  | refl => exact ⟨session, closed, fun waits => waits⟩
  | tail _ move ih =>
    obtain ⟨middle, closed, listing⟩ := ih
    obtain ⟨later, found, grows⟩ := move.grows closed.found
    refine ⟨later, ⟨move.coherent closed.coherent, found, grows.halted closed.halted, ?_,
      move.inactive closed.coherent closed.found closed.inactive⟩, fun waits => listing ?_⟩
    · rw [grows.sequel, closed.sequel]
    · obtain ⟨next, stage⟩ := Session.isListing_iff.mp waits
      exact Session.isListing_iff.mpr ⟨next, grows.listing closed.halted next stage⟩

theorem mute {waits : Bool} (closed : Closed viewer id session)
    (own : step.2.session? = some id) (listing : session.isListing → waits) :
    Mute viewer id waits step := by
  by_cases asked : ∃ next, session.stage = .listing next
  · obtain ⟨next, stage⟩ := asked
    rcases act_of_listing closed.found own stage with same | ⟨result, given, acted⟩
    · exact ⟨by rw [same], by rw [same], .inl (by rw [same])⟩
    · have told : Alike viewer (viewer.listAnswered result).1 := .listAnswered result
      have inactive : (viewer.listAnswered result).1.state.active ≠ some id := by
        rw [told.active]
        exact closed.inactive
      refine ⟨?_, ?_, .inr ⟨listing (Session.isListing_iff.mpr ⟨next, stage⟩), result, given, ?_⟩⟩
      · rw [acted, listed, goOn_calls, listAnswered_calls]
      · rw [acted, listed, goOn_scrolls, listAnswered_scrolls]
      · rw [acted, listed, goOn_of_inactive inactive]
        rfl
  · rcases closed.coherent.act_of_halted closed.found own closed.halted
      fun next stage => asked ⟨next, stage⟩ with same | ⟨outcome, acted⟩
    · exact ⟨by rw [same], by rw [same], .inl (by rw [same])⟩
    · have silent : session.rest = [] := by
        unfold Session.rest
        split
        · exact closed.sequel
        · rfl
      rw [silent] at acted
      exact ⟨by rw [acted]; rfl, by rw [acted]; rfl, .inl (by rw [acted]; rfl)⟩

end Closed

theorem OnScreen.closed (onScreen : OnScreen viewer id session) (status : Status) :
    ∃ later, Closed (viewer.toggle session.job status []).1 id later := by
  have displayed := onScreen.isDisplayed
  have coherent : Coherent .full (viewer.stop.dispatch .logClosed) :=
    onScreen.coherent.close displayed
  rw [toggle_of_displayed displayed]
  obtain ⟨later, found, grows⟩ := Grows.stop viewer onScreen.found
  refine ⟨later, coherent, found, onScreen.coherent.not_isRunning_of_stop found, ?_, ?_⟩
  · rw [grows.sequel, onScreen.sequel]
  · change (viewer.stop.dispatch .logClosed).state.active ≠ some id
    rw [dispatch_state]
    exact (Option.some_ne_none id).symm

/-! ## Opening a job again -/

/-- What a toggle does that opens a job under a number that no session has had. -/
structure Reopens (viewer : Viewer) (id : SessionId) (job : String) (toggled : Viewer × Opened) :
    Prop where
  answer : toggled.2 ≠ .closed
  fresh : viewer.session? id = none
  session : ∃ session, toggled.1.session? id = some session ∧ session.job = job
  active : toggled.1.state.active = some id
  busy : toggled.1.activeJob = some job

structure Vacant (viewer : Viewer) : Prop where
  coherent : Coherent .full viewer
  free : viewer.held? = none
  inactive : viewer.state.active = none
  bare : viewer.state.selected = none

namespace Vacant

theorem of_close (coherent : Coherent .full viewer) (displayed : viewer.isDisplayed job)
    (status : Status) : Vacant (viewer.toggle job status []).1 ∧
      (viewer.toggle job status []).1.sessions.length = viewer.sessions.length := by
  have closed : Coherent .full (viewer.stop.dispatch .logClosed) := coherent.close displayed
  rw [toggle_of_displayed displayed]
  refine ⟨⟨closed, viewer.stop_held?, ?_, ?_⟩, viewer.stop_sessions_length⟩
  · change (viewer.stop.dispatch .logClosed).state.active = none
    rw [dispatch_state]
    rfl
  · change (viewer.stop.dispatch .logClosed).state.selected = none
    rw [dispatch_state]
    rfl

variable (vacant : Vacant viewer)
include vacant

theorem isRunning_eq_false (found : viewer.session? id = some session) :
    session.isRunning = false := by
  rw [Bool.eq_false_iff]
  intro running
  have held := (vacant.coherent.front_of_isRunning found running).2
  rw [vacant.free] at held
  cases held

theorem act (proper : action.isProper) (untoggled : viewer.toggles? answers action = none) :
    Vacant (viewer.act answers action) ∧
      (viewer.act answers action).sessions.length = viewer.sessions.length := by
  have coherent : Coherent .full (viewer.act answers action) := vacant.coherent.act_full proper
  have kept : (viewer.act answers action).sessions.length = viewer.sessions.length ∧
      (viewer.act answers action).held? = viewer.held? ∧
      (viewer.act answers action).state.logView = viewer.state.logView := by
    cases own : action.session? with
    | none =>
      rcases act_of_untoggled own proper untoggled with alike | ⟨busy, -⟩
      · exact ⟨by rw [alike.sessions], alike.held, alike.logView⟩
      · simp [vacant.free] at busy
    | some other =>
      have apart : Apart other viewer (viewer.act answers action) :=
        vacant.coherent.apart_of_halted own (fun _ found => vacant.isRunning_eq_false found)
          (by simp [vacant.inactive])
      exact ⟨apart.length, apart.held, apart.logView⟩
  obtain ⟨length, held, view⟩ := kept
  refine ⟨⟨coherent, held.trans vacant.free, ?_, ?_⟩, length⟩
  · exact (congrArg LogView.active view).trans vacant.inactive
  · exact (congrArg LogView.selected view).trans vacant.bare

theorem run (proper : ∀ step ∈ steps, step.2.isProper) (untoggled : viewer.isUntoggled steps) :
    Vacant (viewer.run steps) ∧ (viewer.run steps).sessions.length = viewer.sessions.length := by
  induction steps generalizing viewer with
  | nil => exact ⟨vacant, rfl⟩
  | cons step rest ih =>
    obtain ⟨first, others⟩ := List.forall_mem_cons.mp proper
    obtain ⟨none, remaining⟩ := isUntoggled_cons.mp untoggled
    obtain ⟨next, kept⟩ := vacant.act first none
    obtain ⟨last, length⟩ := ih next others remaining
    exact ⟨last, length.trans kept⟩

theorem reopens (job : String) (status : Status) :
    Reopens viewer (viewer.sessions.length + 1) job (viewer.toggle job status []) := by
  have hidden : viewer.isDisplayed job = false := by
    have free : viewer.current = none := by simpa [held?] using vacant.free
    simp [isDisplayed, vacant.bare, activeJob, free]
  have opened : Alike (viewer.stop.takeOver job status []) (viewer.toggle job status []).1 :=
    .toggle_of_hidden hidden
  have active : (viewer.toggle job status []).1.state.active =
      some (viewer.sessions.length + 1) := by
    rw [opened.active, takeOver_active, stop_sessions_length]
  constructor
  · unfold toggle
    rw [if_neg (by simp [hidden])]
    dsimp only
    split <;> simp
  · rw [Option.eq_none_iff_forall_ne_some]
    intro session found
    exact Nat.not_succ_le_self _ (session?_bounds found).2
  · refine ⟨viewer.stop.newcomer job status [], ?_, rfl⟩
    rw [opened.session?, session?_takeOver, stop_sessions_length, if_pos rfl]
  · exact active
  · refine activeJob_eq_some.mpr ⟨_, ?_, active⟩
    rw [opened.held, takeOver_held?, stop_sessions_length]

end Vacant

/-- Whatever happens between two toggles of a job that the first one opens, toggles apart, the
second one closes it for good and a third one opens it under a new number. Only a load has to be in
flight still, or to have shown its log or that there is none. -/
theorem second_toggle_closes (start : Viewer) (opening : Answers) (job : String)
    (status again : Status) (between : List (Answers × Action)) (reached : start.Reachable)
    (hidden : start.isDisplayed job = false) (proper : ∀ step ∈ between, step.2.isProper)
    (untoggled : (start.act opening (.toggle job status)).isUntoggled between)
    (loads : status.isLive = false →
      ((start.act opening (.toggle job status)).run between).isUnstopped
        (start.sessions.length + 1) ∧
      ∀ fault, answerTo? (start.sessions.length + 1) between = some (.error fault) →
        fault.isNotFound) :
    let id := start.sessions.length + 1
    let opened := (start.act opening (.toggle job status)).run between
    let closed := opened.toggle job again []
    Closes opened closed ∧
    (∀ later turn, (∀ step ∈ later, step.2.isProper) → turn.2.session? = some id →
      Mute (closed.1.run later) id ((closed.1.session? id).any Session.isListing) turn) ∧
    ∀ (pause : List (Answers × Action)) (third : Status), (∀ step ∈ pause, step.2.isProper) →
      closed.1.isUntoggled pause →
      Reopens (closed.1.run pause) (id + 1) job ((closed.1.run pause).toggle job third []) := by
  intro id opened closed
  have began : OnScreen (start.act opening (.toggle job status)) id _ :=
    .of_toggle reached.coherent hidden status
  obtain ⟨session, onScreen, jobEq⟩ := began.run proper untoggled fun loading => by
    refine loads ?_
    rw [Bool.eq_false_iff]
    intro live
    simp [newcomer, Plan.forStatus?_of_live live] at loading
  obtain rfl : session.job = job := jobEq
  obtain ⟨ended, isClosed⟩ := onScreen.closed again
  refine ⟨closes_of_displayed onScreen.isDisplayed again, fun later turn allowed own => ?_,
    fun pause third allowed idle => ?_⟩
  · obtain ⟨last, stays, listing⟩ := isClosed.of_moves
      (isClosed.coherent.run_moves later fun step member => .full (allowed step member))
    refine stays.mute own fun waits => ?_
    rw [isClosed.found]
    exact listing waits
  · obtain ⟨bare, same⟩ := Vacant.of_close onScreen.coherent onScreen.isDisplayed again
    obtain ⟨vacant, length⟩ := bare.run allowed idle
    rw [onScreen.newest, ← same, ← length]
    exact vacant.reopens session.job third

theorem missing_log_closes :
    let opened := (({} : Viewer).act .bare (.toggle "j" .success)).run
      [(.bare, .setChallenge (some "c")), (.bare, .answer 1 (.error (.notFound "j"))),
        (.bare, .cancel)]
    let closed := opened.toggle "j" .building []
    Closes opened closed ∧
      Mute (closed.1.run [(.bare, .refresh)]) 1 ((closed.1.session? 1).any Session.isListing)
        (.bare, .answer 1 (.ok ⟨"late", .success⟩)) ∧
      Reopens (closed.1.run [(.bare, .cancel)]) 2 "j"
        ((closed.1.run [(.bare, .cancel)]).toggle "j" .pending []) :=
  have missing (fault : Fault) (given : answerTo? 1 [(.bare, .setChallenge (some "c")),
      (.bare, .answer 1 (.error (.notFound "j"))), (.bare, .cancel)] = some (.error fault)) :
      fault.isNotFound := by
    obtain rfl : Fault.notFound "j" = fault := by simpa [answerTo?] using given
    rfl
  have closing := second_toggle_closes {} .bare "j" .success .building
    [(.bare, .setChallenge (some "c")), (.bare, .answer 1 (.error (.notFound "j"))),
      (.bare, .cancel)]
    ⟨{}, [], by simp, rfl⟩ rfl (by decide) (by decide) fun _ => ⟨by decide, missing⟩
  ⟨closing.1, closing.2.1 _ _ (by decide) rfl, closing.2.2 _ _ (by decide) (by decide)⟩

/-- A load that has been cancelled shows nothing when its answer comes, so its job is opened anew.
And a session that waits for the list when it is closed shows that all the same. -/
theorem cancelled_load_opens_anew :
    let loaded := Viewer.run {} [(.bare, .toggle "j" .success), (.bare, .cancel),
      (.bare, .answer 1 (.ok ⟨"log", .success⟩))]
    let slow : Answers := { Answers.bare with delaysList := true }
    let refreshing := Viewer.run {} [(.bare, .setChallenge (some "c")),
      (.bare, .toggle "j" .building), (.bare, .start 1), (.bare, .openStream 1 (.ok 5)),
      (slow, .receive 1 (some (.ok ⟨"done", .success, true⟩)))]
    let closed := refreshing.toggle "j" .building []
    ((loaded.session? 1).bind Session.outcome? = some .completed ∧
      (loaded.toggle "j" .success []).2 = .snapshot) ∧
    closed.2 = .closed ∧ closed.1.state.summaries = [] ∧
      (closed.1.act .bare (.listed 1 (.ok (plainList "c")))).state.summaries = plainList "c" := by
  decide

end Viewer

end BuildWatch
