import BuildWatch.Proofs.Command.Phases
import BuildWatch.Proofs.Follow.Told

namespace BuildWatch.Command

open Client Terminal

namespace Watch

variable {watch : Watch} {answers : Answers} {action : Action} {job : String}

/-! ## The start -/

def visiting (config : ViewerConfig) (id : String) (store : ViewStore) : Viewer where
  config := config
  store := store
  challenge := some id
  viewport := some 0
  calls := [.challenge id, .list id]

theorem isLoading_of_no_sessions (fresh : watch.viewer.sessions = []) :
    watch.isLoading = false := by
  have nobody : watch.session? = none := by
    unfold session?
    cases watch.viewer.current with
    | none => rfl
    | some slot => cases lookup : slot.session <;> simp [Viewer.session?, lookup, fresh]
  simp [isLoading, nobody]

theorem ok_of_isOk {α : Type} {result : Except Fault α} (answered : result.isOk) :
    ∃ value, result = .ok value := by
  cases result with
  | ok value => exact ⟨value, rfl⟩
  | error fault => cases answered

theorem enter_fresh (config : ViewerConfig) {id : String} {found : Challenge} (named : id ≠ "")
    (answered : answers.challenge id = .ok found) : ∃ store : ViewStore,
    Viewer.enter { config, viewport := some 0 } answers (some id) none =
        visiting config id store ∧
      store.state =
        { challenge := some found
          summaries := (answers.list id).toOption.getD []
          error := if (answers.list id).isOk then none else some "failed to load build logs" } := by
  have given : (some id).filter (· ≠ "") = some id := by simp [named]
  unfold Viewer.enter
  rw [given]
  simp only [answered]
  unfold Viewer.showList Viewer.loadList
  cases answers.list id with
  | ok summaries => exact ⟨_, rfl, rfl⟩
  | error fault => exact ⟨_, rfl, rfl⟩

theorem enter_unknown (config : ViewerConfig) {id : String} (target : Option String)
    (unknown : id = "" ∨ (answers.challenge id).isOk = false) :
    let viewer := Viewer.enter { config, viewport := some 0 } answers (some id) target
    viewer.sessions = [] ∧ viewer.state.challenge = none := by
  intro viewer
  by_cases named : id = ""
  · subst named
    exact ⟨rfl, rfl⟩
  · have given : (some id).filter (· ≠ "") = some id := by simp [named]
    have refused := unknown.resolve_left named
    simp only [viewer]
    unfold Viewer.enter
    rw [given]
    cases answered : answers.challenge id with
    | ok found => simp [answered, Except.isOk, Except.toBool] at refused
    | error fault =>
      simp only [answered]
      exact ⟨rfl, rfl⟩

def challengeLine (colored : Bool) (challenge : Challenge) (builds : Nat) : String :=
  painted colored .brightWhite "Challenge:" ++ " " ++ painted colored .cyan challenge.name ++
    " (" ++ toString builds ++ " builds)\n"

def emptyLine (colored : Bool) : String :=
  painted colored .yellow "No builds for this challenge yet." ++ "\n"

def initial (colored : Bool) (options : WatchOptions) : Watch where
  options := options
  viewer := { config := options.config, viewport := some 0 }
  screen := { colored }

theorem start_eq (colored : Bool) (options : WatchOptions) (answers : Answers) :
    start colored options answers =
      ((initial colored options).perform answers
        (.enter (some options.challenge) options.job)).afterEntering answers := rfl

def arrived (colored : Bool) (options : WatchOptions) (found : Challenge) (store : ViewStore) :
    Watch where
  options := options
  viewer := visiting options.config options.challenge store
  screen := { colored }
  errors := challengeLine colored found store.state.summaries.length

theorem start_of_unnamed {options : WatchOptions} {found : Challenge} (colored : Bool)
    (unnamed : options.job = none) (entered : options.challenge ≠ "")
    (answered : answers.challenge options.challenge = .ok found) : ∃ store : ViewStore,
    start colored options answers = (arrived colored options found store).openNewest answers ∧
      store.state =
        { challenge := some found
          summaries := (answers.list options.challenge).toOption.getD []
          error := if (answers.list options.challenge).isOk then none
            else some "failed to load build logs" } := by
  obtain ⟨store, enters, state⟩ := enter_fresh options.config entered answered
  refine ⟨store, ?_, state⟩
  rw [start_eq, unnamed, perform, arrived]
  simp only [initial, Viewer.act, enters, visiting, afterEntering, isLoading, session?,
    Viewer.state, state, Option.bind_none, Option.any_none, Bool.false_eq_true, if_false,
    writeError, challengeLine, String.append_assoc, List.drop_nil, List.foldl_nil]
  rfl

theorem start_of_unknown {options : WatchOptions} (colored : Bool)
    (unknown : options.challenge = "" ∨ (answers.challenge options.challenge).isOk = false) :
    let watch := start colored options answers
    watch.phase = .done 1 ∧
      watch.errors =
        "Error: " ++ watch.viewer.state.error.getD "failed to load challenge" ++ "\n" ∧
      ∃ parts, Sectioned colored watch.screen parts := by
  intro watch
  have written : Sectioned colored (initial colored options).screen [] := .fresh colored
  obtain ⟨parts, sectioned⟩ :=
    perform_sectioned written answers (.enter (some options.challenge) options.job)
  obtain ⟨sessions, untold⟩ := enter_unknown options.config options.job unknown
  have starts : watch = _ := start_eq colored options answers
  generalize entered : (initial colored options).perform answers
    (.enter (some options.challenge) options.job) = arrived at sectioned starts
  have errors : arrived.errors = "" := by rw [← entered]; rfl
  replace sessions : arrived.viewer.sessions = [] := by rw [← entered]; exact sessions
  replace untold : arrived.viewer.state.challenge = none := by rw [← entered]; exact untold
  have refuses : arrived.afterEntering answers = { arrived.writeError
      ("Error: " ++ arrived.viewer.state.error.getD "failed to load challenge") with
        phase := .done 1 } := by
    simp [afterEntering, isLoading_of_no_sessions sessions, untold]
  rw [starts, refuses]
  exact ⟨rfl, by simp [writeError, errors], parts, sectioned⟩

structure FindsNothing (options : WatchOptions) (answers : Answers) : Prop where
  unnamed : options.job = none
  entered : options.challenge ≠ ""
  known : (answers.challenge options.challenge).isOk
  listless : (answers.list options.challenge).toOption.getD [] = []

theorem start_of_findsNothing {options : WatchOptions} (colored : Bool)
    (nothing : FindsNothing options answers) :
    ∃ found, answers.challenge options.challenge = .ok found ∧
      (start colored options answers).output =
        { code := 0, out := emptyLine colored, errors := challengeLine colored found 0 } ∧
      (start colored options answers).isDone ∧
      (start colored options answers).viewer.sessions = [] ∧
      (start colored options answers).viewer.state.error =
        if (answers.list options.challenge).isOk then none
        else some "failed to load build logs" := by
  obtain ⟨unnamed, entered, known, listless⟩ := nothing
  obtain ⟨found, answered⟩ := ok_of_isOk known
  obtain ⟨store, starts, state⟩ := start_of_unnamed colored unnamed entered answered
  have summaries : store.state.summaries = [] := by rw [state, listless]
  rw [starts, openNewest]
  simp only [arrived, visiting, unnamed, Viewer.state, summaries]
  refine ⟨found, answered, ?_, rfl, trivial, ?_⟩
  · simp [output, emptyLine, Screen.writeLine]
  · rw [state]

/-! ## Opening the job -/

structure Launched (config : ViewerConfig) (challenge : String) (viewer : Viewer)
    (session : Session) : Prop where
  coherent : Viewer.Coherent .full viewer
  sessions : viewer.sessions = [session]
  scrolls : viewer.scrolls = []
  known : viewer.state.challenge.isSome
  uncancelled : session.isCancelled = false
  viewport : session.viewport = some 0
  begins : session.plan = none ∧ session.stage = .loading ∨
    session.plan = some (.following config) ∧ session.stage = .ready ∧
      viewer.calls = [.challenge challenge, .list challenge] ∧
      ∃ status, viewer.state.selected = some { job := session.job, content := "", status }

theorem launched_of_toggle (config : ViewerConfig) (challenge job : String) (status : Status)
    (sequel : List ViewEvent) {store : ViewStore}
    (idle : store.state.logView = ({} : ViewState).logView) (known : store.state.challenge.isSome)
    (spare : ∀ event ∈ sequel, event.sparesLog) :
    ∃ session, session.job = job ∧ Launched config challenge
      ((visiting config challenge store).toggle job status sequel).1 session := by
  have fresh : Viewer.Coherent .full (visiting config challenge store) :=
    (Viewer.coherent_start config).alike ⟨rfl, rfl, idle⟩
  have coherent : Viewer.Coherent .full
      ((visiting config challenge store).toggle job status sequel).1 :=
    (Viewer.Moves.toggle spare).coherent fresh
  have hidden : (visiting config challenge store).isDisplayed job = false := by
    have empty : (visiting config challenge store).state.selected = none :=
      congrArg LogView.selected idle
    rw [Viewer.isDisplayed, empty]
    rfl
  have opened : ((visiting config challenge store).takeOver job status
      sequel).state.challenge.isSome := by
    rw [Viewer.takeOver_state]
    exact ViewState.challenge_reduce known _
  refine ⟨(visiting config challenge store).newcomer job status sequel, rfl, ?_⟩
  cases live : status.isLive with
  | false =>
    have unplanned : Plan.forStatus? config status = none := by simp [Plan.forStatus?, live]
    rw [Viewer.toggle_of_unplanned hidden unplanned] at coherent ⊢
    refine ⟨coherent, rfl, rfl, opened, rfl, rfl, .inl ⟨unplanned, ?_⟩⟩
    simp [Viewer.newcomer, visiting, unplanned]
  | true =>
    have planned : Plan.forStatus? config status = some (.following config) :=
      Plan.forStatus?_of_live live
    have alike : Viewer.Alike ((visiting config challenge store).takeOver job status sequel)
        (((visiting config challenge store).takeOver job status sequel).dispatchAll sequel) :=
      .dispatchAll spare
    rw [Viewer.toggle_of_planned hidden planned] at coherent ⊢
    refine ⟨coherent, alike.sessions, Viewer.dispatchAll_scrolls _ _, ?_, rfl, rfl,
      .inr ⟨planned, ?_, Viewer.dispatchAll_calls _ _, status, ?_⟩⟩
    · exact Viewer.dispatchAll_induction (motive := fun viewer => viewer.state.challenge.isSome)
        _ _ (fun viewer event _ known => by
          rw [Viewer.dispatch_state]
          exact ViewState.challenge_reduce known event) opened
    · simp [Viewer.newcomer, visiting, planned]
    · refine alike.selected.trans ?_
      rw [Viewer.takeOver_state]
      simp only [visiting, planned, Option.isSome_some]
      rw [ViewState.reduce_of_accepts rfl]
      rfl

theorem perform_screen_of_silent
    (silent : (watch.viewer.act answers action).scrolls = watch.viewer.scrolls) :
    (watch.perform answers action).screen = watch.screen := by
  simp [perform, silent]

structure Launches (colored : Bool) (options : WatchOptions) (answers : Answers) (watch : Watch)
    (session : Session) : Prop where
  starts : start colored options answers = watch.proceed answers
  chosen : watch.Chosen
  screen : watch.screen = { colored }
  launched : Launched options.config options.challenge watch.viewer session

theorem launches_own {options : WatchOptions} {found : Challenge} (colored : Bool)
    (entered : options.challenge ≠ "") (answered : answers.challenge options.challenge = .ok found)
    (own : options.job = some job) :
    ∃ watch session, session.job = job ∧ Launches colored options answers watch session := by
  let fresh := (initial colored options).viewer
  obtain ⟨store, readied⟩ := fresh.readied_eq answers options.challenge found
  have alike := fresh.alike_readied answers options.challenge found
  have known : (fresh.readied answers options.challenge found).state.challenge.isSome := by
    unfold Viewer.readied Viewer.showList Viewer.loadList Viewer.listAnswered
    cases answers.list options.challenge <;> rfl
  rw [readied] at alike known
  have named : (some options.challenge).filter (· ≠ "") = some options.challenge := by
    simp [entered]
  have opens : fresh.act answers (.enter (some options.challenge) (some job)) =
      ((visiting options.config options.challenge store).toggle job
        ((statusOf? store.state.summaries job).getD .unspecified) [.challengeLoadFinished]).1 := by
    refine (Viewer.enter_eq named answered).trans ?_
    rw [readied]
    rfl
  obtain ⟨session, same, launched⟩ := launched_of_toggle options.config options.challenge job
    ((statusOf? store.state.summaries job).getD .unspecified) [.challengeLoadFinished]
    alike.logView known (by simp [ViewEvent.sparesLog])
  rw [← opens] at launched
  refine ⟨(initial colored options).perform answers (.enter (some options.challenge) (some job)),
    session, same, ⟨?_, .inr ⟨rfl, ?_⟩, perform_screen_of_silent launched.scrolls, launched⟩⟩
  · rw [start_eq, own]
    rfl
  · simp [initial, own]

theorem launches_newest {options : WatchOptions} {found : Challenge} {newest : Summary}
    {rest : List Summary} (colored : Bool) (entered : options.challenge ≠ "")
    (answered : answers.challenge options.challenge = .ok found) (unnamed : options.job = none)
    (listed : (answers.list options.challenge).toOption.getD [] = newest :: rest) :
    ∃ watch session, session.job = newest.job ∧
      Launches colored options answers watch session := by
  obtain ⟨store, starts, state⟩ := start_of_unnamed colored unnamed entered answered
  rw [listed] at state
  obtain ⟨session, same, launched⟩ := launched_of_toggle options.config options.challenge
    newest.job newest.status [] (by rw [state]; rfl) (by rw [state]; rfl) (by simp)
  refine ⟨{ (arrived colored options found store).perform answers
    (.openJob newest.job (some newest.status)) with phase := .opening }, session, same,
    ⟨?_, .inl rfl, perform_screen_of_silent launched.scrolls, launched⟩⟩
  rw [starts, openNewest]
  simp only [arrived, visiting, unnamed, Viewer.state, state]
  rfl

def target? (options : WatchOptions) (answers : Answers) : Option String :=
  options.job <|> ((answers.list options.challenge).toOption.getD []).head?.map Summary.job

theorem start_launches {options : WatchOptions} (colored : Bool)
    (entered : options.challenge ≠ "") (known : (answers.challenge options.challenge).isOk)
    (target : target? options answers = some job) :
    ∃ watch session, session.job = job ∧ Launches colored options answers watch session := by
  obtain ⟨found, answered⟩ := ok_of_isOk known
  cases named : options.job with
  | some own =>
    obtain rfl : own = job := by simpa [target?, named] using target
    exact launches_own colored entered answered named
  | none =>
    cases listed : (answers.list options.challenge).toOption.getD [] with
    | nil => simp [target?, named, listed] at target
    | cons newest rest =>
      obtain rfl : newest.job = job := by simpa [target?, named, listed] using target
      exact launches_newest colored entered answered named listed

theorem start_cases (options : WatchOptions) (answers : Answers) :
    (options.challenge = "" ∨ (answers.challenge options.challenge).isOk = false) ∨
      FindsNothing options answers ∨
      options.challenge ≠ "" ∧ (answers.challenge options.challenge).isOk ∧
        ∃ job, target? options answers = some job := by
  by_cases unknown : options.challenge = "" ∨ (answers.challenge options.challenge).isOk = false
  · exact .inl unknown
  · obtain ⟨entered, known⟩ := not_or.mp unknown
    replace known : (answers.challenge options.challenge).isOk := by simpa using known
    cases target : target? options answers with
    | some job => exact .inr (.inr ⟨entered, known, job, rfl⟩)
    | none =>
      obtain ⟨unnamed, listless⟩ : options.job = none ∧
          (answers.list options.challenge).toOption.getD [] = [] := by
        simpa [target?] using target
      exact .inr (.inl ⟨unnamed, entered, known, listless⟩)

end Watch

/-! ## Runs -/

section
variable {options : WatchOptions} (link : Link) (settings : Settings) (colored : Bool)
  (turns : Nat)

theorem follow_of_unknown (unknown : options.challenge = "" ∨
      ((entryAnswers link settings options.challenge).challenge options.challenge).isOk = false) :
    (startWatch link settings colored options).follow link settings turns =
      startWatch link settings colored options := by
  obtain ⟨refused, -⟩ := Watch.start_of_unknown colored unknown
  exact Conversation.follow_of_isDone (by rw [startWatch, Watch.isDone, refused]) turns

theorem follow_of_findsNothing
    (nothing : Watch.FindsNothing options (entryAnswers link settings options.challenge)) :
    (startWatch link settings colored options).follow link settings turns =
      startWatch link settings colored options := by
  obtain ⟨found, -, -, done, -⟩ := Watch.start_of_findsNothing colored nothing
  exact Conversation.follow_of_isDone done turns

theorem follow_works {job : String} (entered : options.challenge ≠ "")
    (known :
      ((entryAnswers link settings options.challenge).challenge options.challenge).isOk)
    (target :
      Watch.target? options (entryAnswers link settings options.challenge) = some job) :
    Watch.Working colored
      ((startWatch link settings colored options).follow link settings turns).watch := by
  refine Conversation.follow_induction
    (fun _ answers action busy working => working.act busy answers action) ?_ turns
  obtain ⟨opened, session, -, launches⟩ := Watch.start_launches colored entered known target
  have fresh : Sectioned colored opened.screen [] := by
    rw [launches.screen]
    exact .fresh colored
  rw [startWatch, launches.starts]
  exact Watch.working_proceed launches.chosen launches.launched.known fresh _

end

end BuildWatch.Command
