import BuildWatch.Proofs.Follow.AtHand

namespace BuildWatch.Viewer

variable {viewer : Viewer} {answers : Answers} {action : Action} {job : String} {status : Status}

/-! ## On the way into a challenge -/

theorem showList_eq (viewer : Viewer) (answers : Answers) (challenge : String) : ∃ store,
    viewer.showList answers challenge =
      { viewer with store, calls := viewer.calls ++ [.list challenge] } := by
  unfold showList loadList listAnswered
  cases answers.list challenge <;> exact ⟨_, rfl⟩

def listAfter (answers : Answers) (challenge : String) (shown : List Summary) : List Summary :=
  (answers.list challenge).toOption.getD shown

theorem loadList_summaries (viewer : Viewer) (answers : Answers) (challenge : String) :
    (viewer.loadList answers challenge).1.state.summaries =
      listAfter answers challenge viewer.state.summaries := by
  have asked : (viewer.askList challenge).state = viewer.state.reduce .listLoadStarted :=
    dispatch_state viewer .listLoadStarted
  unfold loadList listAnswered listAfter
  cases answers.list challenge with
  | ok summaries =>
    dsimp only
    rw [dispatch_state]
    rfl
  | error fault =>
    dsimp only
    rw [dispatch_state, asked]
    rfl

theorem showList_summaries (viewer : Viewer) (answers : Answers) (challenge : String) :
    (viewer.showList answers challenge).state.summaries =
      listAfter answers challenge viewer.state.summaries := by
  unfold showList
  dsimp only
  split
  · exact loadList_summaries viewer answers challenge
  · rw [dispatch_state]
    exact loadList_summaries viewer answers challenge

def introduced (viewer : Viewer) (id : String) (found : Challenge) : Viewer :=
  { ((viewer.dispatch .challengeLoadStarted).call (.challenge id)).dispatch
      (.challengeLoaded found) with
    challenge := some id }

def readied (viewer : Viewer) (answers : Answers) (id : String) (found : Challenge) : Viewer :=
  ((viewer.introduced id found).showList answers id).dispatch .listExpanded

theorem enter_eq {challenge : Option String} {id : String} {found : Challenge}
    (given : challenge.filter (· ≠ "") = some id) (answered : answers.challenge id = .ok found) :
    viewer.enter answers challenge (some job) =
      ((viewer.readied answers id found).openJob job none [.challengeLoadFinished]).1 := by
  simp only [enter, given, answered]
  rfl

section
variable (viewer answers) (id : String) (found : Challenge)

theorem alike_readied : Alike viewer (viewer.readied answers id found) := by
  have asked : Alike viewer ((viewer.dispatch .challengeLoadStarted).call (.challenge id)) :=
    (Alike.dispatch rfl).trans (.call _)
  exact (asked.trans (.showChallenge answers found id)).trans (.dispatch rfl)

theorem readied_eq : ∃ store, viewer.readied answers id found = { viewer with
    store
    challenge := some id
    calls := viewer.calls ++ [.challenge id, .list id] } := by
  obtain ⟨store, shown⟩ := showList_eq (viewer.introduced id found) answers id
  refine ⟨store.dispatch .listExpanded, ?_⟩
  rw [readied, shown]
  simp [introduced, dispatch, call]

theorem readied_isListExpanded :
    (viewer.readied answers id found).state.isListExpanded = true := by
  rw [readied, dispatch_state]
  rfl

theorem readied_summaries : (viewer.readied answers id found).state.summaries =
    listAfter answers id viewer.state.summaries := by
  rw [readied, dispatch_state]
  exact showList_summaries _ answers id

end

/-! ## Whatever opens a job -/

theorem Alike.isDisplayed {after : Viewer} (alike : Alike viewer after) :
    after.isDisplayed job = viewer.isDisplayed job := by
  have busy : after.activeJob = viewer.activeJob := by
    refine Option.ext fun job => ?_
    simp only [activeJob_eq_some, alike.held, alike.active]
  rw [Viewer.isDisplayed, Viewer.isDisplayed, alike.selected, busy]

/-- The job that an action toggles, and the status it takes it to have. -/
def toggles? (viewer : Viewer) (answers : Answers) : Action → Option (String × Status)
  | .toggle job status => some (job, status)
  | .openJob job known =>
    some (job, (known <|> statusOf? viewer.state.summaries job).getD .unspecified)
  | .enter challenge target =>
    (challenge.filter (· ≠ "")).bind fun id =>
      if (answers.challenge id).isOk then
        target.map fun job =>
          (job, (statusOf? (listAfter answers id viewer.state.summaries) job).getD .unspecified)
      else none
  | _ => none

theorem act_of_toggles (toggles : viewer.toggles? answers action = some (job, status)) :
    ∃ prepared sequel, Alike viewer prepared ∧ prepared.config = viewer.config ∧
      prepared.viewport = viewer.viewport ∧ (∀ event ∈ sequel, event.sparesLog) ∧
      viewer.act answers action = (prepared.toggle job status sequel).1 := by
  cases action with
  | toggle named given =>
    obtain ⟨rfl, rfl⟩ : named = job ∧ given = status := by simpa [toggles?] using toggles
    exact ⟨viewer, [], .refl viewer, rfl, rfl, by simp, rfl⟩
  | openJob named known =>
    simp only [toggles?, Option.some.injEq, Prod.mk.injEq] at toggles
    obtain ⟨rfl, rfl⟩ := toggles
    exact ⟨viewer, [], .refl viewer, rfl, rfl, by simp, rfl⟩
  | enter challenge target =>
    cases given : challenge.filter (· ≠ "") with
    | none =>
      rw [toggles?, given] at toggles
      simp at toggles
    | some id =>
      rw [toggles?, given] at toggles
      cases answered : answers.challenge id with
      | error fault => simp [answered, Except.isOk, Except.toBool] at toggles
      | ok found =>
        obtain ⟨named, rfl, same⟩ : ∃ named, target = some named ∧ (named, _) = (job, status) := by
          simpa [answered, Except.isOk, Except.toBool, Option.map_eq_some_iff] using toggles
        obtain ⟨rfl, rfl⟩ := Prod.mk.inj same
        obtain ⟨store, readiedEq⟩ := viewer.readied_eq answers id found
        refine ⟨viewer.readied answers id found, [.challengeLoadFinished],
          viewer.alike_readied answers id found, ?_, ?_, by simp [ViewEvent.sparesLog], ?_⟩
        · rw [readiedEq]
        · rw [readiedEq]
        · rw [act, enter_eq given answered, openJob, readied_summaries]
          rfl
  | _ => simp [toggles?] at toggles

theorem toggle_of_planned {plan : Plan} {sequel : List ViewEvent}
    (hidden : viewer.isDisplayed job = false)
    (planned : Plan.forStatus? viewer.config status = some plan) :
    (viewer.toggle job status sequel).1 =
      (viewer.stop.takeOver job status sequel).dispatchAll sequel := by
  unfold toggle
  rw [if_neg (by simp [hidden])]
  cases plan <;> simp [planned]

theorem toggle_of_unplanned {sequel : List ViewEvent} (hidden : viewer.isDisplayed job = false)
    (unplanned : Plan.forStatus? viewer.config status = none) :
    (viewer.toggle job status sequel).1 =
      (viewer.stop.takeOver job status sequel).call (.snapshot job) := by
  simp [toggle, hidden, unplanned]

theorem Alike.toggle_of_hidden (hidden : viewer.isDisplayed job = false) :
    Alike (viewer.stop.takeOver job status []) (viewer.toggle job status []).1 := by
  cases planned : Plan.forStatus? viewer.config status with
  | some plan =>
    rw [toggle_of_planned hidden planned]
    exact .refl _
  | none =>
    rw [toggle_of_unplanned hidden planned]
    exact .call _

theorem toggle_of_displayed {sequel : List ViewEvent} (displayed : viewer.isDisplayed job) :
    (viewer.toggle job status sequel).1 =
      (viewer.stop.dispatch .logClosed).dispatchAll sequel := by
  simp [toggle, displayed]

theorem stop_challenge (viewer : Viewer) : viewer.stop.challenge = viewer.challenge := by
  unfold stop
  split <;> rfl

theorem stop_calls (viewer : Viewer) : viewer.stop.calls = viewer.calls := by
  unfold stop
  split <;> rfl

theorem stop_scrolls (viewer : Viewer) : viewer.stop.scrolls = viewer.scrolls := by
  unfold stop
  split <;> rfl

theorem stop_viewport (viewer : Viewer) : viewer.stop.viewport = viewer.viewport := by
  unfold stop
  split <;> rfl

theorem atHand_of_toggles {plan : Plan} (coherent : Coherent .full viewer)
    (proper : action.isProper)
    (toggles : viewer.toggles? answers action = some (job, status))
    (hidden : viewer.isDisplayed job = false)
    (planned : Plan.forStatus? viewer.config status = some plan) :
    AtHand (viewer.act answers action) (viewer.sessions.length + 1)
        { job, challenge := (viewer.act answers action).challenge, viewport := viewer.viewport,
          plan := some plan, stage := .ready } ∧
      (viewer.act answers action).state.selected = some { job, content := "", status } := by
  have after : Coherent .full (viewer.act answers action) := coherent.act_full proper
  obtain ⟨prepared, sequel, alike, config, viewport, spare, acted⟩ := act_of_toggles toggles
  have prepare : Plan.forStatus? prepared.config status = some plan := by rw [config, planned]
  rw [acted, toggle_of_planned (alike.isDisplayed.trans hidden) prepare] at after ⊢
  have opened : Alike (prepared.stop.takeOver job status sequel) _ := .dispatchAll spare
  have challenge : ((prepared.stop.takeOver job status sequel).dispatchAll sequel).challenge =
      prepared.challenge := by
    refine dispatchAll_induction (motive := fun after => after.challenge = prepared.challenge)
      _ _ (fun _ _ _ same => same) ?_
    exact stop_challenge prepared
  have length : prepared.stop.sessions.length = viewer.sessions.length := by
    rw [stop_sessions_length, alike.sessions]
  refine ⟨⟨after, ?_, ?_, rfl, rfl⟩, ?_⟩
  · rw [opened.sessions, takeOver_sessions, List.length_append, length]
    rfl
  · rw [opened.session?, session?_takeOver, length, if_pos rfl, challenge, newcomer, stop_config,
      prepare, stop_challenge, stop_viewport, viewport]
    rfl
  · rw [opened.selected, takeOver_state, stop_config, prepare, ViewState.reduce_of_accepts rfl]
    rfl

end BuildWatch.Viewer
