import BuildWatch.Proofs.Follow.ListOnScreen

namespace BuildWatch

def ViewEvent.sparesFold : ViewEvent → Bool
  | listToggled | listExpanded => false
  | _ => true

theorem ViewState.reduce_isListExpanded (state : ViewState) {event : ViewEvent}
    (spares : event.sparesFold) : (state.reduce event).isListExpanded = state.isListExpanded := by
  unfold reduce
  split
  · cases event with
    | listToggled | listExpanded => cases spares
    | sessionOpened _ _ _ live => cases live <;> rfl
    | _ => rfl
  · rfl

namespace Viewer

variable {viewer after start : Viewer} {id other : SessionId} {session : Session}
  {answers : Answers} {action : Action} {challenge job : String} {result : Except Fault Snapshot}

/-! ## What is neither called nor folded -/

structure Still (before after : Viewer) : Prop where
  calls : after.calls = before.calls
  expanded : after.state.isListExpanded = before.state.isListExpanded

namespace Still

theorem refl (viewer : Viewer) : Still viewer viewer := ⟨rfl, rfl⟩

theorem trans {first middle last : Viewer} (left : Still first middle) (right : Still middle last) :
    Still first last :=
  ⟨right.calls.trans left.calls, right.expanded.trans left.expanded⟩

theorem dispatch {event : ViewEvent} (spares : event.sparesFold) :
    Still viewer (viewer.dispatch event) :=
  ⟨rfl, by rw [dispatch_state, viewer.state.reduce_isListExpanded spares]⟩

theorem dispatchAll {events : List ViewEvent} (spare : ∀ event ∈ events, event.sparesFold) :
    Still viewer (viewer.dispatchAll events) :=
  dispatchAll_induction viewer events
    (fun _ event member still => still.trans (.dispatch (spare event member))) (.refl viewer)

theorem goOn (next : Option Nat) : Still viewer (viewer.goOn id next) := by
  cases next with
  | some tick => exact ⟨rfl, rfl⟩
  | none =>
    refine ⟨goOn_calls none, ?_⟩
    rw [Viewer.goOn, conclude_state]
    exact viewer.state.reduce_isListExpanded rfl

theorem listAnswered (result : Except Fault (List Summary)) :
    Still viewer (viewer.listAnswered result).1 := by
  cases result <;> exact .dispatch rfl

theorem stop : Still viewer viewer.stop :=
  ⟨stop_calls viewer, by rw [stop_state]⟩

theorem takeOver {status : Status} {sequel : List ViewEvent} :
    Still viewer (viewer.takeOver job status sequel) := by
  have told : Still viewer (viewer.dispatch (.sessionOpened (viewer.sessions.length + 1) job status
      (Plan.forStatus? viewer.config status).isSome)) := .dispatch rfl
  exact ⟨told.calls, told.expanded⟩

theorem showLoaded : Still viewer (viewer.showLoaded id session result).1 := by
  have published {event : ViewEvent} (spares : event.sparesFold) : Still viewer
      (((viewer.publish? session event).getD viewer).dispatch (.sessionFinished id)) := by
    refine Still.trans ?_ (.dispatch rfl)
    unfold publish?
    split
    · exact .dispatch spares
    · exact .refl viewer
  unfold Viewer.showLoaded
  cases result with
  | ok snapshot => exact published rfl
  | error fault =>
    dsimp only
    split
    · exact .refl viewer
    · split <;> exact published rfl

theorem setStage (stage : Stage) : Still viewer (viewer.setStage id stage) := ⟨rfl, rfl⟩

theorem release : Still viewer (viewer.release id) := by
  refine ⟨?_, by rw [release_state]⟩
  unfold Viewer.release
  split <;> rfl

theorem loaded (plain : ∀ event ∈ session.sequel, event = .challengeLoadFinished) :
    Still viewer (viewer.loaded id session result) := by
  rw [loaded_eq]
  exact ((Still.showLoaded.trans (.setStage _)).trans .release).trans
    (.dispatchAll fun event member => plain event member ▸ rfl)

theorem act_of_older (coherent : Coherent .full viewer) (belongs : viewer.Belongs fun _ => True)
    (own : action.session? = some other) (older : other ≠ viewer.sessions.length) :
    Still viewer (viewer.act answers action) := by
  have turned : viewer.act answers action = viewer ∨ _ :=
    coherent.act_of_halted_cases own fun _ found => coherent.settled found older
  rcases turned with same | ⟨session, found, ⟨outcome, acted⟩ | ⟨next, result, acted⟩⟩
  · rw [same]
    exact .refl viewer
  · rw [acted]
    refine (Still.setStage _).trans (.dispatchAll fun event member => ?_)
    unfold Session.rest at member
    split at member
    · exact (belongs.sessions found).sequel event member ▸ rfl
    · cases member
  · rw [acted]
    exact (Still.listAnswered result).trans (.goOn next)

end Still

/-! ## Single loads -/

theorem shown_dispatchAll (viewer : Viewer) {events : List ViewEvent}
    (plain : ∀ event ∈ events, event = .challengeLoadFinished) :
    (viewer.dispatchAll events).state.selected = viewer.state.selected ∧
      (viewer.dispatchAll events).state.error = viewer.state.error := by
  refine dispatchAll_induction (motive := fun after => after.state.selected =
    viewer.state.selected ∧ after.state.error = viewer.state.error) _ _ ?_ ⟨rfl, rfl⟩
  rintro middle event member ⟨selected, error⟩
  rw [plain event member, dispatch_state]
  exact ⟨selected, error⟩

structure Waiting (viewer : Viewer) (id : SessionId) (session : Session) : Prop where
  coherent : Coherent .full viewer
  belongs : viewer.Belongs fun _ => True
  newest : id = viewer.sessions.length
  found : viewer.session? id = some session
  loading : session.stage = .loading
  uncancelled : session.isCancelled = false

namespace Waiting

theorem of_toggle {status : Status} {sequel : List ViewEvent}
    (hidden : viewer.isDisplayed job = false)
    (unplanned : Plan.forStatus? viewer.config status = none)
    (coherent : Coherent .full (viewer.toggle job status sequel).1)
    (belongs : (viewer.toggle job status sequel).1.Belongs fun _ => True) :
    Waiting (viewer.toggle job status sequel).1 (viewer.sessions.length + 1)
        (viewer.stop.newcomer job status sequel) ∧
      (viewer.toggle job status sequel).1.calls = viewer.calls ++ [.snapshot job] ∧
      (viewer.toggle job status sequel).1.state.isListExpanded = viewer.state.isListExpanded := by
  rw [toggle_of_unplanned hidden unplanned] at coherent belongs ⊢
  have opened : Still viewer (viewer.stop.takeOver job status sequel) := Still.stop.trans .takeOver
  have asked : Alike (viewer.stop.takeOver job status sequel)
      ((viewer.stop.takeOver job status sequel).call (.snapshot job)) := .call _
  refine ⟨⟨coherent, belongs, ?_, ?_, ?_, rfl⟩, ?_, opened.expanded⟩
  · rw [asked.sessions, takeOver_sessions, List.length_append, stop_sessions_length]
    rfl
  · rw [asked.session?, session?_takeOver, stop_sessions_length, if_pos rfl]
  · simp [newcomer, unplanned]
  · rw [← opened.calls]
    rfl

theorem idle (waiting : Waiting viewer id session) (own : action.session? = some id)
    (quiet : ∀ result, action ≠ .answer id result) : viewer.act answers action = viewer := by
  refine (act_of_loading waiting.found own waiting.loading).resolve_right ?_
  rintro ⟨result, answered, -⟩
  exact quiet result answered

theorem turn (waiting : Waiting viewer id session) (own : action.session? = some other)
    (quiet : ∀ result, action ≠ .answer id result) :
    Waiting (viewer.act answers action) id session ∧ Still viewer (viewer.act answers action) := by
  have ordinary : action.isOrdinary := Action.isOrdinary_of_session own
  have coherent : Coherent .full (viewer.act answers action) :=
    waiting.coherent.act_full (Action.isProper_of_ordinary ordinary)
  have belongs : (viewer.act answers action).Belongs fun _ => True :=
    waiting.belongs.act ordinary (by simp)
  -- All sessions but the load itself are older.
  by_cases same : other = id
  · subst same
    rw [waiting.idle own quiet]
    exact ⟨waiting, .refl viewer⟩
  · have older : other ≠ viewer.sessions.length := waiting.newest ▸ same
    have apart : Apart other viewer (viewer.act answers action) :=
      waiting.coherent.act_of_older own older
    refine ⟨⟨coherent, belongs, ?_, ?_, waiting.loading, waiting.uncancelled⟩,
      .act_of_older waiting.coherent waiting.belongs own older⟩
    · rw [apart.length, waiting.newest]
    · rw [apart.sessions id fun equal => same equal.symm, waiting.found]

theorem run {steps : List (Answers × Action)} (waiting : Waiting viewer id session)
    (turns : ∀ step ∈ steps, step.2.session?.isSome)
    (quiet : ∀ step ∈ steps, ∀ result, step.2 ≠ .answer id result) :
    Waiting (viewer.run steps) id session ∧ Still viewer (viewer.run steps) := by
  induction steps generalizing viewer with
  | nil => exact ⟨waiting, .refl viewer⟩
  | cons step rest ih =>
    obtain ⟨other, own⟩ := Option.isSome_iff_exists.mp (turns step (by simp))
    obtain ⟨next, still⟩ :
        Waiting (viewer.act step.1 step.2) id session ∧ Still viewer (viewer.act step.1 step.2) :=
      waiting.turn own (quiet step (by simp))
    obtain ⟨last, later⟩ := ih next (fun step member => turns step (by simp [member]))
      (fun step member => quiet step (by simp [member]))
    exact ⟨last, still.trans later⟩

theorem act_answer (waiting : Waiting viewer id session) (answers : Answers)
    (result : Except Fault Snapshot) :
    viewer.act answers (.answer id result) = viewer.loaded id session result := by
  simp only [act, Viewer.turn, waiting.found, waiting.loading]

theorem answered (waiting : Waiting viewer id session) (answers : Answers)
    (heard : result ≠ .error .cancelled) :
    Still viewer (viewer.act answers (.answer id result)) ∧
      (viewer.act answers (.answer id result)).state.selected = loadedLog session.job result ∧
      (viewer.act answers (.answer id result)).state.error = loadedError session.job result ∧
      ∃ outcome, (viewer.act answers (.answer id result)).session? id =
        some { session with stage := .over outcome } := by
  have running := Session.isRunning_of_loading waiting.loading waiting.uncancelled
  obtain ⟨shows, -⟩ := waiting.coherent.front_of_isRunning waiting.found running
  have plain := (waiting.belongs.sessions waiting.found).sequel
  rw [waiting.act_answer]
  -- The log is on screen before the rest of the request is told, which does not touch it.
  generalize toldEq : ((viewer.showLoaded id session result).1.setStage id
    (.over (viewer.showLoaded id session result).2)).release id = told
  have loadedEq : viewer.loaded id session result = told.dispatchAll session.sequel := by
    rw [← toldEq, loaded_eq]
  have state : told.state = viewer.state.afterLoad session.job result := by
    rw [← toldEq, release_state]
    exact (viewer.showLoaded_of_active id waiting.uncancelled shows.active heard).1
  obtain ⟨selected, error⟩ := told.shown_dispatchAll plain
  refine ⟨.loaded plain, ?_, ?_, (viewer.showLoaded id session result).2, ?_⟩
  · rw [loadedEq, selected, state]
    rfl
  · rw [loadedEq, error, state]
    rfl
  · rw [session?_congr id (viewer.loaded_sessions id session result),
      session?_setStage_self waiting.found]

end Waiting

/-! ## Entering a challenge with a job -/

def linkStatus (viewer : Viewer) (answers : Answers) (challenge job : String) : Status :=
  (statusOf? (listAfter answers challenge viewer.state.summaries) job).getD .unspecified

/-- The viewer when a request returns. One that has begun a single load returns when its answer has
come, any other one at once. -/
def returned (entered : Viewer) (id : SessionId) (between : List (Answers × Action))
    (answers : Answers) (result : Except Fault Snapshot) : Viewer :=
  if (entered.session? id).any fun session => session.stage == .loading then
    (entered.run between).act answers (.answer id result)
  else entered

/-- What a deep link is for: the job has been opened. A running job is followed by a new session;
for any other one the log has been asked for once, and is on screen or else its failure is. -/
structure LinkOpened (start : Viewer) (challenge job : String) (status : Status)
    (result : Except Fault Snapshot) (after : Viewer) : Prop where
  expanded : after.state.isListExpanded
  session : ∃ session, after.session? (start.sessions.length + 1) = some session ∧
    session.job = job ∧ session.plan = Plan.forStatus? start.config status ∧
    (status.isLive → session.isRunning)
  calls : after.calls = start.calls ++ [.challenge challenge, .list challenge] ++
    if status.isLive then [] else [.snapshot job]
  selected : after.state.selected =
    if status.isLive then some { job, content := "", status } else loadedLog job result
  error : status.isLive = false → after.state.error = loadedError job result
  failed : after.state.selected = none → after.state.error = some "failed to load build log"

theorem of_readied {found : Challenge}
    (still : Still (start.readied answers challenge found) after) :
    after.state.isListExpanded ∧
      after.calls = start.calls ++ [.challenge challenge, .list challenge] := by
  obtain ⟨store, readiedEq⟩ := start.readied_eq answers challenge found
  refine ⟨?_, ?_⟩
  · rw [still.expanded, readied_isListExpanded]
  · rw [still.calls, readiedEq]

section
variable {found : Challenge} (named : challenge ≠ "")
  (answered : answers.challenge challenge = .ok found)
include named answered

theorem enter_toggles : start.act answers (.enter (some challenge) (some job)) =
    ((start.readied answers challenge found).toggle job (start.linkStatus answers challenge job)
      [.challengeLoadFinished]).1 := by
  have given : (some challenge).filter (· ≠ "") = some challenge := by simp [named]
  rw [act, enter_eq given answered, openJob, readied_summaries]
  rfl

theorem link_of_displayed (displayed : start.isDisplayed job) :
    Still (start.readied answers challenge found)
        (start.act answers (.enter (some challenge) (some job))) ∧
      (start.act answers (.enter (some challenge) (some job))).state.selected = none ∧
      (start.act answers (.enter (some challenge) (some job))).session?
        (start.sessions.length + 1) = none := by
  have alike : Alike start (start.readied answers challenge found) :=
    start.alike_readied answers challenge found
  have onScreen : (start.readied answers challenge found).isDisplayed job :=
    alike.isDisplayed.trans displayed
  rw [enter_toggles named answered, toggle_of_displayed onScreen]
  have closed : Still (start.readied answers challenge found)
      ((start.readied answers challenge found).stop.dispatch .logClosed) :=
    Still.stop.trans (.dispatch rfl)
  refine ⟨closed.trans (.dispatchAll (by simp [ViewEvent.sparesFold])), ?_, ?_⟩
  · change (((start.readied answers challenge found).stop.dispatch .logClosed).dispatch
      .challengeLoadFinished).state.selected = none
    rw [dispatch_state, dispatch_state]
    rfl
  · rw [Option.eq_none_iff_forall_ne_some]
    intro session located
    have bound := (session?_bounds located).2
    rw [dispatchAll_sessions, dispatch_sessions, stop_sessions_length, alike.sessions] at bound
    exact Nat.not_succ_le_self _ bound

theorem link_of_live (coherent : Coherent .full start) (hidden : start.isDisplayed job = false)
    (live : (start.linkStatus answers challenge job).isLive) (between : List (Answers × Action))
    (asked : Answers) (result : Except Fault Snapshot) :
    LinkOpened start challenge job (start.linkStatus answers challenge job) result
      ((start.act answers (.enter (some challenge) (some job))).returned
        (start.sessions.length + 1) between asked result) := by
  obtain ⟨plan, planned⟩ : ∃ plan,
      Plan.forStatus? start.config (start.linkStatus answers challenge job) = some plan := by
    rw [Plan.forStatus?, if_pos live]
    cases start.config.transport <;> exact ⟨_, rfl⟩
  have toggles : start.toggles? answers (.enter (some challenge) (some job)) =
      some (job, start.linkStatus answers challenge job) := by
    have given : (some challenge).filter (· ≠ "") = some challenge := by simp [named]
    rw [toggles?, given]
    simp [linkStatus, answered, Except.isOk, Except.toBool]
  obtain ⟨atHand, selected⟩ := atHand_of_toggles coherent rfl toggles hidden planned
  have still : Still (start.readied answers challenge found)
      (start.act answers (.enter (some challenge) (some job))) := by
    obtain ⟨store, readiedEq⟩ := start.readied_eq answers challenge found
    have alike : Alike start (start.readied answers challenge found) :=
      start.alike_readied answers challenge found
    have prepared : Plan.forStatus? (start.readied answers challenge found).config
        (start.linkStatus answers challenge job) = some plan := by
      rw [readiedEq, planned]
    rw [enter_toggles named answered,
      toggle_of_planned (alike.isDisplayed.trans hidden) prepared]
    have opened : Still (start.readied answers challenge found)
        ((start.readied answers challenge found).stop.takeOver job
          (start.linkStatus answers challenge job) [.challengeLoadFinished]) :=
      Still.stop.trans .takeOver
    exact opened.trans (.dispatchAll (by simp [ViewEvent.sparesFold]))
  obtain ⟨expanded, calls⟩ := of_readied still
  rw [returned, if_neg (by simp [atHand.found])]
  exact {
    expanded
    session := ⟨_, atHand.found, rfl, planned.symm, fun _ => atHand.isRunning rfl⟩
    calls := by rw [calls, if_pos live, List.append_nil]
    selected := by rw [selected, if_pos live]
    error := fun settled => by simp [live] at settled
    failed := fun blank => by simp [selected] at blank }

theorem waiting_of_link (coherent : Coherent .full start) (belongs : start.Belongs fun _ => True)
    (hidden : start.isDisplayed job = false)
    (settled : (start.linkStatus answers challenge job).isLive = false) :
    ∃ session, session.job = job ∧ session.plan = none ∧
      Waiting (start.act answers (.enter (some challenge) (some job)))
        (start.sessions.length + 1) session ∧
      (start.act answers (.enter (some challenge) (some job))).state.isListExpanded ∧
      (start.act answers (.enter (some challenge) (some job))).calls =
        start.calls ++ [.challenge challenge, .list challenge] ++ [.snapshot job] := by
  have entered : Coherent .full (start.act answers (.enter (some challenge) (some job))) :=
    coherent.act_full rfl
  have belongs' : (start.act answers (.enter (some challenge) (some job))).Belongs fun _ => True :=
    belongs.act rfl (by simp)
  obtain ⟨store, readiedEq⟩ := start.readied_eq answers challenge found
  have alike : Alike start (start.readied answers challenge found) :=
    start.alike_readied answers challenge found
  have unplanned (config : ViewerConfig) :
      Plan.forStatus? config (start.linkStatus answers challenge job) = none := by
    simp [Plan.forStatus?, settled]
  rw [enter_toggles named answered] at entered belongs' ⊢
  obtain ⟨waiting, calls, expanded⟩ :=
    Waiting.of_toggle (alike.isDisplayed.trans hidden) (unplanned _) entered belongs'
  rw [alike.sessions] at waiting
  refine ⟨_, rfl, unplanned _, waiting, ?_, ?_⟩
  · rw [expanded, readied_isListExpanded]
  · rw [calls, readiedEq]

theorem link_of_load (coherent : Coherent .full start) (belongs : start.Belongs fun _ => True)
    (hidden : start.isDisplayed job = false)
    (settled : (start.linkStatus answers challenge job).isLive = false)
    (between : List (Answers × Action)) (asked : Answers)
    (turns : ∀ step ∈ between, step.2.session?.isSome)
    (quiet : ∀ step ∈ between, ∀ other, step.2 ≠ .answer (start.sessions.length + 1) other)
    (heard : result ≠ .error .cancelled) :
    LinkOpened start challenge job (start.linkStatus answers challenge job) result
      ((start.act answers (.enter (some challenge) (some job))).returned
        (start.sessions.length + 1) between asked result) := by
  obtain ⟨session, jobEq, unplanned, waiting, expanded, calls⟩ :=
    waiting_of_link named answered coherent belongs hidden settled
  obtain ⟨last, quietly⟩ := waiting.run turns quiet
  obtain ⟨told, selected, error, outcome, found⟩ := last.answered asked heard
  have still := quietly.trans told
  rw [returned, if_pos (by simp [waiting.found, waiting.loading])]
  exact {
    expanded := still.expanded.trans expanded
    session := ⟨_, found, jobEq, by simp [unplanned, Plan.forStatus?, settled], by simp [settled]⟩
    calls := by simp [still.calls, calls, settled]
    selected := by simp [selected, jobEq, settled]
    error := fun _ => by rw [error, jobEq]
    failed := fun missing => by
      rw [error]
      exact loadedError_of_none (selected.symm.trans missing) }

end

theorem deep_link_opens_iff (config : ViewerConfig) (before between : List (Answers × Action))
    (answers asked : Answers) (challenge job : String) {found : Challenge}
    (result : Except Fault Snapshot) (ordinary : ∀ step ∈ before, step.2.isOrdinary)
    (named : challenge ≠ "") (answered : answers.challenge challenge = .ok found)
    (turns : ∀ step ∈ between, step.2.session?.isSome)
    (quiet : ∀ step ∈ between, ∀ other, step.2 ≠
      .answer ((({ config } : Viewer).run before).sessions.length + 1) other)
    (heard : result ≠ .error .cancelled) :
    let start := ({ config } : Viewer).run before
    let after := (start.act answers (.enter (some challenge) (some job))).returned
      (start.sessions.length + 1) between asked result
    (LinkOpened start challenge job (start.linkStatus answers challenge job) result after ↔
      start.isDisplayed job = false) ∧
    (start.isDisplayed job → after.state.isListExpanded ∧ after.state.selected = none ∧
      after.calls = start.calls ++ [.challenge challenge, .list challenge]) := by
  intro start after
  have coherent : Coherent .full start :=
    coherent_run fun step member => .full (Action.isProper_of_ordinary (ordinary step member))
  have belongs : start.Belongs fun _ => True := (belongs_start config).run ordinary
  cases displayed : start.isDisplayed job with
  | true =>
    obtain ⟨still, selected, missing⟩ := link_of_displayed named answered displayed
    obtain ⟨expanded, calls⟩ := of_readied still
    have atOnce : after = start.act answers (.enter (some challenge) (some job)) := by
      change returned _ _ _ _ _ = _
      simp [returned, missing]
    rw [atOnce]
    refine ⟨⟨fun opened => ?_, by simp⟩, fun _ => ⟨expanded, selected, calls⟩⟩
    obtain ⟨session, found, -⟩ := opened.session
    rw [missing] at found
    cases found
  | false =>
    refine ⟨⟨fun _ => rfl, fun _ => ?_⟩, by simp⟩
    cases live : (start.linkStatus answers challenge job).isLive with
    | true => exact link_of_live named answered coherent displayed live between asked result
    | false =>
      exact link_of_load named answered coherent belongs displayed live between asked turns quiet
        heard

theorem deep_link_opens_beside_stream :
    let start := Viewer.run {} [(plainAnswers, .enter (some "c1") (some "c1")),
      (plainAnswers, .start 1), (plainAnswers, .openStream 1 (.ok 7))]
    let entered := start.act plainAnswers (.enter (some "c2") (some "j"))
    LinkOpened start "c2" "j" .unspecified (.ok { content := "log", status := .success })
      (entered.returned 2 [(.bare, .receive 1 (some (.ok ⟨"late", .success, true⟩)))] .bare
        (.ok { content := "log", status := .success })) :=
  (deep_link_opens_iff {} [(plainAnswers, .enter (some "c1") (some "c1")),
      (plainAnswers, .start 1), (plainAnswers, .openStream 1 (.ok 7))]
    [(.bare, .receive 1 (some (.ok ⟨"late", .success, true⟩)))] plainAnswers .bare "c2" "j"
    (.ok { content := "log", status := .success }) (by decide) (by decide) rfl
    (by simp [Action.session?]) (by simp) (by simp)).1.mpr (by decide)

/-- A deep link that is followed twice closes the log that it has opened. -/
theorem second_deep_link_closes :
    let shown := Viewer.run {} [(plainAnswers, .enter (some "c1") (some "j")),
      (plainAnswers, .answer 1 (.ok { content := "log", status := .success }))]
    let again := shown.act plainAnswers (.enter (some "c1") (some "j"))
    shown.state.selected = some { job := "j", content := "log", status := .success } ∧
      again.state.selected = none ∧ again.state.error = none ∧ again.sessions = shown.sessions ∧
      again.calls = shown.calls ++ [.challenge "c1", .list "c1"] := by
  decide

end Viewer

end BuildWatch
