import BuildWatch.Proofs.Command.Launch

namespace BuildWatch

namespace Viewer

variable {viewer : Viewer} {id : SessionId} {session : Session} {result : Except Fault Snapshot}

/-! ## The answer to a single load -/

theorem Coherent.held?_of_loaded (coherent : Coherent .full (viewer.loaded id session result))
    (newest : id = viewer.sessions.length) (found : viewer.session? id = some session)
    (unplanned : session.plan = none) : (viewer.loaded id session result).held? = none := by
  have sessions := viewer.loaded_sessions id session result
  have lookup : (viewer.loaded id session result).newest? =
      some { session with stage := .over (viewer.showLoaded id session result).2 } := by
    rw [newest?, sessions, setStage_sessions_length, session?_congr _ sessions, ← newest,
      session?_setStage_self found]
  have front := coherent.front
  rw [lookup] at front
  generalize (viewer.loaded id session result).held? = holding at front ⊢
  cases front with
  | running running => simp [Session.isRunning, Session.isOver] at running
  | ended => simp [unplanned]
  | stopped => rfl

end Viewer

namespace Command

open Client Terminal

def fed (items : List (Except StreamError Chunk)) : List StreamItem :=
  items.map fun item => some (item.mapError StreamError.fault)

def linesOf (items : List (Except StreamError Chunk)) : String :=
  String.join ((Viewer.heard (fed items)).map Chunk.line)

def lineOf (item : StreamItem) : String :=
  ((Viewer.chunk? item).map Chunk.line).getD ""

theorem linesOf_eq (items : List (Except StreamError Chunk)) :
    let item := items.head?.map fun item => item.mapError StreamError.fault
    linesOf items = lineOf item ++
      if (Viewer.endingOf? item).isSome then "" else linesOf items.tail := by
  cases items with
  | nil => rfl
  | cons item rest =>
    cases item with
    | error problem => rfl
    | ok chunk =>
      have heard : linesOf (.ok chunk :: rest) =
          chunk.line ++ if chunk.isComplete then "" else linesOf rest := by
        cases complete : chunk.isComplete <;>
          simp [linesOf, fed, Viewer.heard, Except.mapError, complete]
      refine heard.trans ?_
      cases complete : chunk.isComplete <;>
        simp [lineOf, Viewer.chunk?, Viewer.endingOf?, Except.mapError, complete]

def streamed (link : Link) (settings : Settings) (challenge job : String) : String :=
  let earlier := requests settings [.challenge challenge, .list challenge]
  match openStream link settings earlier job with
  | .ok items => linesOf items
  | .error _ => ""

namespace Watch

variable {colored : Bool} {watch : Watch} {answers : Answers} {action : Action}
  {session : Session} {log shown : SelectedLog} {stage later : Stage}

theorem finish_prints
    (screen : watch.screen = Screen.render { colored } watch.viewer.state.selected)
    (answers : Answers) : (watch.finish answers).isDone ∧
      (watch.finish answers).viewer.state = watch.viewer.state ∧
      (watch.finish answers).screen.output = printed colored watch.viewer.state.selected := by
  rw [finish_eq]
  refine ⟨rfl, rfl, ?_⟩
  rw [← output_render_fresh, screen]
  cases watch.viewer.state.selected with
  | none => rfl
  | some log => exact congrArg Screen.output (render_render _ log)

/-! ## Waiting for a log -/

structure Loads (colored : Bool) (watch : Watch) (session : Session) : Prop where
  coherent : Viewer.Coherent .full watch.viewer
  sessions : watch.viewer.sessions = [session]
  loading : session.stage = .loading
  uncancelled : session.isCancelled = false
  known : watch.viewer.state.challenge.isSome
  chosen : watch.Chosen
  screen : watch.screen = { colored }

namespace Loads

variable (loads : Loads colored watch session)
include loads

theorem found : watch.viewer.session? 1 = some session := by
  simp [Viewer.session?, loads.sessions]

theorem held : watch.viewer.held? = some (1, session.job) ∧ watch.viewer.state.selected = none := by
  have running := Session.isRunning_of_loading loads.loading loads.uncancelled
  obtain ⟨shows, held⟩ := loads.coherent.front_of_isRunning loads.found running
  have unplanned := (loads.coherent.fits loads.found).unplanned loads.loading
  have job := shows.job
  rw [unplanned] at job
  exact ⟨held, Option.map_eq_none_iff.mp job⟩

theorem act_answer (answers : Answers) (result : Except Fault Snapshot) :
    (watch.act answers (.answer 1 result)).isDone ∧
      (watch.act answers (.answer 1 result)).screen.output =
        printed colored (watch.act answers (.answer 1 result)).viewer.state.selected := by
  have acts : watch.viewer.act answers (.answer 1 result) =
      watch.viewer.loaded 1 session result := by
    simp [Viewer.act, Viewer.turn, loads.found, loads.loading]
  have coherent : Viewer.Coherent .full (watch.viewer.loaded 1 session result) :=
    acts ▸ loads.coherent.act_full rfl
  have fits := loads.coherent.fits loads.found
  have free : (watch.viewer.loaded 1 session result).held? = none :=
    coherent.held?_of_loaded (by rw [loads.sessions]; rfl) loads.found
      (fits.unplanned loads.loading)
  have known : (watch.viewer.loaded 1 session result).state.challenge.isSome :=
    acts ▸ Viewer.known_act loads.known answers (.answer 1 result)
  have screen : (watch.perform answers (.answer 1 result)).screen = { colored } := by
    rw [perform_screen_of_silent (acts ▸ Viewer.loaded_scrolls), loads.screen]
  have chosen : (watch.perform answers (.answer 1 result)).Chosen := loads.chosen
  have viewer : (watch.perform answers (.answer 1 result)).viewer = _ := acts
  rw [Watch.act]
  generalize watch.perform answers (.answer 1 result) = heard at screen chosen viewer ⊢
  rw [← viewer] at free known
  have nobody : heard.session? = none := session?_of_free free
  obtain ⟨errors, goes⟩ :=
    proceed_of_loaded chosen known (by simp [isLoading, nobody]) answers
  have idle : (heard.atJob errors).isFollowing = false := by
    have still : (heard.atJob errors).session? = none := nobody
    simp [isFollowing, still]
  have fresh : (heard.atJob errors).screen =
      Screen.render { colored } (heard.atJob errors).viewer.state.selected := by
    rw [atJob, screen]
  obtain ⟨done, state, output⟩ := finish_prints fresh answers
  rw [goes, afterFollowing, idle]
  exact ⟨done, output.trans (congrArg (fun state => printed colored state.selected) state.symm)⟩

end Loads

/-! ## Following a stream -/

structure Streams (colored : Bool) (watch : Watch) (session : Session) (stage : Stage)
    (log : SelectedLog) : Prop where
  atHand : watch.viewer.AtHand 1 { session with stage }
  plan : session.plan = some .pushStream
  viewport : session.viewport = some 0
  phase : watch.phase = .following
  selected : watch.viewer.state.selected = some log
  job : log.job = session.job
  screen : watch.screen = showing colored log

namespace Streams

variable (streams : Streams colored watch session stage log)
include streams

theorem perform {calls : List Call} {scrolls : List Scroll} {more : String}
    (proper : action.isProper)
    (effect : Viewer.Effect watch.viewer (watch.viewer.act answers action) 1
      { session with stage := later } calls scrolls (some shown))
    (job : shown.job = log.job) (grows : shown.content = log.content ++ more)
    (scrolled : scrolls = [] ∧ more = "" ∨
      scrolls = Viewer.scrollCalls session.viewport (some shown)) :
    Streams colored (watch.perform answers action) session later shown where
  atHand := streams.atHand.of_effect (streams.atHand.coherent.act_full proper) effect
  plan := streams.plan
  viewport := streams.viewport
  phase := streams.phase
  selected := effect.selected
  job := job.trans streams.job
  screen := by
    rw [perform_screen effect.scrolls, streams.screen]
    rcases scrolled with ⟨rfl, rfl⟩ | rfl
    · refine render_congr ?_ _
      simp [sectionOf, job, grows]
    · rw [streams.viewport]
      exact render_showing job grows

theorem isFollowing_eq : watch.isFollowing = !Session.isOver { session with stage } := by
  have held := streams.atHand.held
  rw [isFollowing, session?_of_held held, streams.atHand.found, Option.any_some]
  cases ended : Session.isOver { session with stage } with
  | true => simp
  | false =>
    have running := streams.atHand.isRunning ended
    obtain ⟨shows, -⟩ := streams.atHand.coherent.front_of_isRunning streams.atHand.found running
    have active : watch.viewer.activeJob = some session.job :=
      Viewer.activeJob_eq_some.mpr ⟨1, held, shows.active⟩
    simp [active]

theorem proceed_of_live (live : stage.isLive) (answers : Answers) :
    watch.proceed answers = watch := by
  have ongoing : Session.isOver { session with stage } = false := Session.isOver_of_isLive live
  rw [proceed, streams.phase]
  simp [afterFollowing, streams.isFollowing_eq, ongoing]

end Streams

theorem Streams.proceed_of_over {outcome : Outcome}
    (streams : Streams colored watch session (.over outcome) log) (answers : Answers) :
    watch.proceed answers = watch.finish answers := by
  rw [proceed, streams.phase]
  simp [afterFollowing, streams.isFollowing_eq, Session.isOver]

end Watch

/-! ## Turns over a link -/

namespace Conversation

variable {conversation : Conversation} {link : Link} {settings : Settings} {colored : Bool}
  {challenge : String} {session : Session} {log : SelectedLog} {stage : Stage}

theorem want?_of_held {watch : Watch} {id : SessionId} {job : String}
    (held : watch.viewer.held? = some (id, job))
    (found : watch.viewer.session? id = some session) : watch.want? =
      match session.stage with
      | .ready => some (.turn (.start id))
      | .opening => some (.stream id session.job)
      | .receiving _ => some (.item id)
      | .fetching _ | .loading => some (.snapshot id session.job)
      | .resting _ => some (.rest id session.pollPlan.1)
      | .listing _ | .over _ => none := by
  unfold Viewer.held? at held
  cases current : watch.viewer.current with
  | none => simp [current] at held
  | some slot =>
    obtain ⟨rfl, -⟩ : slot.session = id ∧ slot.job = job := by simpa [current] using held
    cases stage : session.stage <;> simp [Watch.want?, current, found, stage]

/-- What a command has come to that has opened a job, unless it polls. -/
inductive Serving (link : Link) (settings : Settings) (colored : Bool) (challenge : String)
    (session : Session) : Conversation → Prop
  | loading {conversation : Conversation} (loads : conversation.watch.Loads colored session) :
      Serving link settings colored challenge session conversation
  | ready {conversation : Conversation} {log : SelectedLog}
      (streams : conversation.watch.Streams colored session .ready log) (silent : log.content = "")
      (calls : conversation.watch.viewer.calls = [.challenge challenge, .list challenge]) :
      Serving link settings colored challenge session conversation
  | opening {conversation : Conversation} {log : SelectedLog}
      (streams : conversation.watch.Streams colored session .opening log)
      (silent : log.content = "")
      (calls : conversation.watch.viewer.calls =
        [.challenge challenge, .list challenge, .stream session.job]) :
      Serving link settings colored challenge session conversation
  | receiving {conversation : Conversation} {log : SelectedLog} {stream : StreamId}
      (streams : conversation.watch.Streams colored session (.receiving stream) log)
      (remains : log.content ++ linesOf conversation.items =
        streamed link settings challenge session.job) :
      Serving link settings colored challenge session conversation
  | returned {conversation : Conversation} (done : conversation.watch.isDone)
      (output : conversation.watch.screen.output =
        printed colored conversation.watch.viewer.state.selected)
      (heard : session.plan = some .pushStream → ∃ log,
        conversation.watch.viewer.state.selected = some log ∧ log.job = session.job ∧
          log.content = streamed link settings challenge session.job) :
      Serving link settings colored challenge session conversation

theorem returned_of_streams {watch : Watch} {outcome : Outcome}
    (streams : watch.Streams colored session (.over outcome) log)
    (total : log.content = streamed link settings challenge session.job) (answers : Answers)
    (items : List (Except StreamError Chunk)) :
    Serving link settings colored challenge session { watch := watch.proceed answers, items } := by
  have fresh : watch.screen = Screen.render { colored } watch.viewer.state.selected := by
    rw [streams.screen, streams.selected, showing]
  obtain ⟨done, state, output⟩ := Watch.finish_prints fresh answers
  rw [streams.proceed_of_over]
  refine .returned done ?_ fun _ => ⟨log, ?_, streams.job, total⟩
  · exact output.trans (congrArg (fun state => printed colored state.selected) state.symm)
  · exact (congrArg ViewState.selected state).trans streams.selected

namespace Serving

theorem step_loading (loads : conversation.watch.Loads colored session) :
    Serving link settings colored challenge session (conversation.step link settings) := by
  have want := want?_of_held loads.held.1 loads.found
  rw [loads.loading] at want
  rw [step, want]
  obtain ⟨done, output⟩ := loads.act_answer
    (answersAfter link settings conversation.watch.viewer.calls)
    (answer link settings conversation.watch.viewer.calls.dropLast (snapshotQuery session.job))
  refine .returned done output fun plan => ?_
  have unplanned := (loads.coherent.fits loads.found).unplanned loads.loading
  simp [unplanned] at plan

theorem step_ready (streams : conversation.watch.Streams colored session .ready log)
    (silent : log.content = "")
    (calls : conversation.watch.viewer.calls = [.challenge challenge, .list challenge]) :
    Serving link settings colored challenge session (conversation.step link settings) := by
  have want : conversation.watch.want? = some (.turn (.start 1)) :=
    want?_of_held streams.atHand.held streams.atHand.found
  rw [step, want]
  dsimp only [act, Watch.act]
  generalize answersAfter link settings conversation.watch.viewer.calls = answers
  have effect := streams.atHand.effect_start answers rfl streams.plan
  rw [streams.selected] at effect
  have opening := streams.perform rfl effect rfl String.append_empty.symm (.inl ⟨rfl, rfl⟩)
  rw [opening.proceed_of_live rfl]
  exact .opening opening silent (effect.calls.trans (by rw [calls]; rfl))

theorem step_opening (streams : conversation.watch.Streams colored session .opening log)
    (silent : log.content = "") (calls : conversation.watch.viewer.calls =
      [.challenge challenge, .list challenge, .stream session.job]) :
    Serving link settings colored challenge session (conversation.step link settings) := by
  have want : conversation.watch.want? = some (.stream 1 session.job) :=
    want?_of_held streams.atHand.held streams.atHand.found
  rw [step, want]
  dsimp only [act, Watch.act]
  rw [calls]
  generalize answersAfter link settings _ = answers
  have effect (result : Except Fault StreamId) :=
    streams.atHand.effect_openStream answers rfl result
  simp only [streams.selected] at effect
  have opened (result : Except Fault StreamId) :=
    streams.perform rfl (effect result) rfl String.append_empty.symm (.inl ⟨rfl, rfl⟩)
  change Serving _ _ _ _ _ (match openStream link settings
    (requests settings [.challenge challenge, .list challenge]) session.job with
    | .ok items => _
    | .error problem => _)
  cases answered : openStream link settings
      (requests settings [.challenge challenge, .list challenge]) session.job with
  | ok items =>
    have receiving := opened (.ok 0)
    dsimp only
    rw [receiving.proceed_of_live rfl]
    refine .receiving receiving ?_
    rw [silent, streamed, answered, String.empty_append]
  | error problem =>
    have failed : Watch.Streams colored _ session (.over (Viewer.outcomeOf problem.fault)) log :=
      opened (.error problem.fault)
    refine returned_of_streams failed ?_ answers _
    rw [silent, streamed, answered]

theorem step_receiving {stream : StreamId}
    (streams : conversation.watch.Streams colored session (.receiving stream) log)
    (remains : log.content ++ linesOf conversation.items =
      streamed link settings challenge session.job) :
    Serving link settings colored challenge session (conversation.step link settings) := by
  have want : conversation.watch.want? = some (.item 1) :=
    want?_of_held streams.atHand.held streams.atHand.found
  rw [step, want]
  dsimp only [act, Watch.act]
  have prompt : (answersAfter link settings conversation.watch.viewer.calls).delaysList = false :=
    rfl
  generalize answersAfter link settings conversation.watch.viewer.calls = answers at prompt ⊢
  have total := linesOf_eq conversation.items
  dsimp only at total
  generalize (conversation.items.head?.map fun item => item.mapError StreamError.fault) = item
    at total ⊢
  obtain ⟨later, ends, effect⟩ := streams.atHand.effect_receive answers rfl item
  obtain ⟨shown, showing, job, grows, silent⟩ : ∃ shown : SelectedLog,
      (Viewer.chunk? item).elim (some log) (fun chunk =>
        (some log).map fun log => log.append chunk.line chunk.status) = some shown ∧
      shown.job = log.job ∧ shown.content = log.content ++ lineOf item ∧
      ((Viewer.chunk? item).all (fun chunk => chunk.line = "") → lineOf item = "") := by
    unfold lineOf
    cases Viewer.chunk? item with
    | none => exact ⟨log, rfl, rfl, String.append_empty.symm, fun _ => rfl⟩
    | some chunk => exact ⟨_, rfl, rfl, rfl, by simp⟩
  rw [streams.selected, showing] at effect
  have heard : Watch.Streams colored (conversation.watch.perform answers (.receive 1 item)) session
      later shown := by
    refine streams.perform rfl effect job grows ?_
    split
    · rename_i unheard
      exact .inl ⟨rfl, silent unheard⟩
    · exact .inr rfl
  cases ended : Viewer.endingOf? item with
  | none =>
    rw [ended] at ends total
    obtain rfl : later = .receiving stream := ends
    rw [heard.proceed_of_live rfl]
    refine .receiving heard ?_
    rw [grows, String.append_assoc, ← remains, total]
    rfl
  | some outcome =>
    rw [ended] at ends total
    rcases ends with rfl | ⟨-, -, delayed⟩
    · refine returned_of_streams heard ?_ answers _
      rw [grows, ← remains, total]
      exact congrArg (log.content ++ ·) String.append_empty.symm
    · cases prompt.symm.trans delayed

/-! ## Runs -/

theorem step (serving : Serving link settings colored challenge session conversation)
    (busy : conversation.watch.isDone = false) :
    Serving link settings colored challenge session (conversation.step link settings) := by
  cases serving with
  | loading loads => exact step_loading loads
  | ready streams silent calls => exact step_ready streams silent calls
  | opening streams silent calls => exact step_opening streams silent calls
  | receiving streams remains => exact step_receiving streams remains
  | returned done => simp [busy] at done

theorem follow (serving : Serving link settings colored challenge session conversation)
    (turns : Nat) :
    Serving link settings colored challenge session
      (conversation.follow link settings turns) := by
  induction turns generalizing conversation with
  | zero => exact serving
  | succ turns ih =>
    unfold Conversation.follow
    split
    · exact serving
    · rename_i busy
      exact ih (serving.step (by simpa using busy))

theorem output_of_isDone (serving : Serving link settings colored challenge session conversation)
    (done : conversation.watch.isDone) :
    conversation.watch.screen.output =
        printed colored conversation.watch.viewer.state.selected ∧
      (session.plan = some .pushStream → ∃ log,
        conversation.watch.viewer.state.selected = some log ∧ log.job = session.job ∧
          log.content = streamed link settings challenge session.job) := by
  cases serving with
  | loading loads =>
    rw [Watch.isDone_of_chosen loads.chosen] at done
    cases done
  | ready streams | opening streams | receiving streams =>
    simp [Watch.isDone, streams.phase] at done
  | returned _ output heard => exact ⟨output, heard⟩

theorem render_eq (serving : Serving link settings colored challenge session conversation)
    (busy : conversation.watch.isDone = false) :
    conversation.watch.render = conversation.watch := by
  have ofStreams {stage : Stage} {log : SelectedLog}
      (streams : conversation.watch.Streams colored session stage log) :
      conversation.watch.render = conversation.watch := by
    rw [Watch.render, streams.selected, streams.screen, showing, render_render, ← showing,
      ← streams.screen]
  cases serving with
  | loading loads =>
    rw [Watch.render, loads.held.2]
    rfl
  | ready streams | opening streams | receiving streams => exact ofStreams streams
  | returned done => simp [busy] at done

end Serving

def followRendering (conversation : Conversation) (link : Link) (settings : Settings) :
    List Bool → Conversation
  | [] => conversation
  | again :: rest =>
    if conversation.watch.isDone then conversation
    else
      let watch := if again then conversation.watch.render else conversation.watch
      ({ conversation with watch }.step link settings).followRendering link settings rest

theorem Serving.followRendering_eq
    (serving : Serving link settings colored challenge session conversation)
    (renders : List Bool) : conversation.followRendering link settings renders =
      conversation.follow link settings renders.length := by
  induction renders generalizing conversation with
  | nil => rfl
  | cons again rest ih =>
    rw [followRendering, List.length_cons, Conversation.follow]
    split
    · rfl
    · rename_i busy
      replace busy : conversation.watch.isDone = false := by simpa using busy
      rw [serving.render_eq busy, ite_self]
      exact ih (serving.step busy)

end Conversation

namespace Watch

variable {colored : Bool} {watch : Watch} {session : Session} {config : ViewerConfig}
  {challenge : String} {link : Link} {settings : Settings}

namespace Launched

theorem found (launched : Launched config challenge watch.viewer session) :
    watch.viewer.session? 1 = some session := by
  simp [Viewer.session?, launched.sessions]

theorem isLoading_eq (launched : Launched config challenge watch.viewer session) :
    watch.isLoading = (session.stage == .loading) := by
  have ongoing : session.isOver = false := by
    rcases launched.begins with ⟨-, stage⟩ | ⟨-, stage, -⟩ <;> simp [Session.isOver, stage]
  have running : session.isRunning := Session.isRunning_iff.mpr ⟨launched.uncancelled, ongoing⟩
  obtain ⟨-, held⟩ := launched.coherent.front_of_isRunning launched.found running
  rw [isLoading, session?_of_held held, launched.found, Option.any_some]

theorem transport_of_pushStream (launched : Launched config challenge watch.viewer session)
    (pushes : session.plan = some .pushStream) : config.transport = .stream := by
  rcases launched.begins with ⟨unplanned, -⟩ | ⟨planned, -⟩
  · simp [unplanned] at pushes
  · cases transport : config.transport with
    | stream => rfl
    | poll => simp [planned, Plan.following, transport] at pushes

theorem streams {status : Status} (launched : Launched config challenge watch.viewer session)
    (pushes : session.plan = some .pushStream) (stage : session.stage = .ready)
    (selected : watch.viewer.state.selected = some { job := session.job, content := "", status })
    (screen : watch.screen = { colored }) (errors : String) :
    Streams colored (watch.atJob errors) session .ready
      { job := session.job, content := "", status } where
  atHand :=
    { coherent := launched.coherent
      newest := by rw [atJob, launched.sessions]; rfl
      found := launched.found.trans (by rw [← stage])
      planned := by rw [pushes]; rfl
      uncancelled := launched.uncancelled }
  plan := pushes
  viewport := launched.viewport
  phase := rfl
  selected := selected
  job := rfl
  screen := by rw [atJob, screen, selected, showing]

theorem serving (launched : Launched config challenge watch.viewer session)
    (chosen : watch.Chosen) (screen : watch.screen = { colored })
    (whole : config.transport = .stream ∨ session.plan = none) (answers : Answers) :
    (watch.proceed answers).screen = { colored } ∧
      Conversation.Serving link settings colored challenge session
        { watch := watch.proceed answers } := by
  have loading := launched.isLoading_eq
  rcases launched.begins with ⟨unplanned, stage⟩ | ⟨planned, stage, calls, status, selected⟩
  · rw [proceed_of_loading chosen (by simp [loading, stage])]
    have loads : watch.Loads colored session :=
      ⟨launched.coherent, launched.sessions, stage, launched.uncancelled, launched.known, chosen,
        screen⟩
    exact ⟨screen, .loading loads⟩
  · have transport : config.transport = .stream := whole.resolve_right (by simp [planned])
    have pushes : session.plan = some .pushStream := by rw [planned, Plan.following, transport]
    obtain ⟨errors, goes⟩ :=
      proceed_of_loaded chosen launched.known (by simp [loading, stage]) answers
    have streams := launched.streams pushes stage selected screen errors
    have still : (watch.atJob errors).afterFollowing answers = watch.atJob errors :=
      streams.proceed_of_live rfl answers
    rw [goes, still]
    exact ⟨streams.screen.trans (showing_of_empty rfl), .ready streams rfl calls⟩

end Launched

end Watch

/-! ## The output of a command -/

theorem Watch.Working.last_section {colored : Bool} {watch : Watch} {log : SelectedLog}
    (working : Watch.Working colored watch) (done : watch.isDone)
    (selected : watch.viewer.state.selected = some log) (speaks : log.content ≠ "") :
    ∃ earlier : List Section, watch.screen.output =
      String.join ((earlier ++ [sectionOf log]).map (Section.written colored)) := by
  obtain ⟨before, parts, sectioned, answers, rfl⟩ := working.returned_of_isDone done
  rw [Watch.finish_eq] at selected ⊢
  replace selected : before.viewer.state.selected = some log := selected
  rw [selected]
  obtain ⟨earlier, last⟩ : ∃ earlier, recorded parts log = earlier ++ [sectionOf log] :=
    List.getLast?_eq_some_iff.mp (getLast?_recorded speaks)
  refine ⟨earlier, ?_⟩
  rw [← last]
  exact (sectioned.recorded log).output

/-- A command that opens a job ends its output with the log. Of a job that it streams, or loads as a
whole, the output holds nothing else, at whatever times the log is written. -/
theorem log_printed_once (link : Link) (settings : Settings) (colored : Bool)
    (options : WatchOptions) (turns : Nat) (job : String) (entered : options.challenge ≠ "")
    (known :
      ((entryAnswers link settings options.challenge).challenge options.challenge).isOk)
    (target :
      Watch.target? options (entryAnswers link settings options.challenge) = some job) :
    let begun := startWatch link settings colored options
    let watch := (begun.follow link settings turns).watch
    ∃ session, begun.watch.viewer.sessions = [session] ∧ session.job = job ∧
      (watch.isDone →
        (∀ log, watch.viewer.state.selected = some log → log.content ≠ "" →
          ∃ earlier : List Section, watch.output.out =
            String.join ((earlier ++ [sectionOf log]).map (Section.written colored))) ∧
        (options.config.transport = .stream ∨ session.plan = none →
          watch.output.out = printed colored watch.viewer.state.selected) ∧
        (session.plan = some .pushStream → ∃ log, watch.viewer.state.selected = some log ∧
          log.job = job ∧ log.content = streamed link settings options.challenge job)) ∧
      (options.config.transport = .stream ∨ session.plan = none →
        begun.watch.output.out = "" ∧
        ∀ renders : List Bool, begun.followRendering link settings renders =
          begun.follow link settings renders.length) := by
  intro begun watch
  have working : Watch.Working colored watch :=
    follow_works link settings colored turns entered known target
  obtain ⟨opened, session, rfl, starts, chosen, screen, launched⟩ :=
    Watch.start_launches colored entered known target
  have begins : begun =
      { watch := opened.proceed (entryAnswers link settings options.challenge) } := by
    rw [← starts]
    rfl
  have sessions : begun.watch.viewer.sessions = [session] := by
    rw [begins]
    exact (Watch.proceed_sessions chosen launched.known _).trans launched.sessions
  have serving (whole : options.config.transport = .stream ∨ session.plan = none) :
      begun.watch.screen = { colored } ∧
      Conversation.Serving link settings colored options.challenge session begun := by
    rw [begins]
    exact launched.serving chosen screen whole _
  refine ⟨session, sessions, rfl, fun done => ⟨?_, fun whole => ?_, fun pushes => ?_⟩,
    fun whole => ⟨?_, ?_⟩⟩
  · exact fun log selected speaks => working.last_section done selected speaks
  · obtain ⟨output, -⟩ := ((serving whole).2.follow turns).output_of_isDone done
    exact output
  · have transport : options.config.transport = .stream := launched.transport_of_pushStream pushes
    obtain ⟨-, heard⟩ := ((serving (.inl transport)).2.follow turns).output_of_isDone done
    exact heard pushes
  · rw [Watch.output, (serving whole).1]
  · exact (serving whole).2.followRendering_eq

def framedLink : Link where
  response? past _ := some ⟨200, (if past.isEmpty then
      "\x7b\"challenge\":\x7b\"challenge_id\":\"c1\",\"name\":\"One\"\x7d\x7d"
    else "\x7b\"logs\":[\x7b\"job_id\":\"j1\",\"status\":\"building\"\x7d]\x7d").toUTF8⟩
  handshake? _ _ := some (.opened
    [.text "compiling", .ping, .text "\x7b\"line\":\"done\",\"is_complete\":true\x7d",
      .text "late"])

def framedSettings : Settings where
  baseUrl := "http://h"
  streamUrl := "ws://h"

def framedWatch : Conversation :=
  startWatch framedLink framedSettings false { challenge := "c1" }

set_option maxRecDepth 10000 in
theorem frames_printed_once :
    (framedWatch.follow framedLink framedSettings 8).watch.isDone ∧
    (framedWatch.follow framedLink framedSettings 8).watch.output.out =
      "── j1 ──\ncompiling\ndone" ∧
    framedWatch.followRendering framedLink framedSettings [true, false, true, true] =
      framedWatch.follow framedLink framedSettings 4 := by
  have done : (framedWatch.follow framedLink framedSettings 8).watch.isDone := by decide +kernel
  have said : streamed framedLink framedSettings "c1" "j1" = "compiling\ndone" := by
    decide +kernel
  have planned : framedWatch.watch.viewer.sessions.map Session.plan = [some .pushStream] := by
    decide +kernel
  obtain ⟨session, sessions, -, ends, renders⟩ := log_printed_once framedLink framedSettings false
    { challenge := "c1" } 8 "j1" (by decide) (by decide +kernel) (by decide +kernel)
  obtain ⟨-, whole, pushes⟩ := ends done
  obtain ⟨log, selected, job, content⟩ := pushes (by
    rw [show framedWatch.watch.viewer.sessions = [session] from sessions] at planned
    simpa using planned)
  refine ⟨done, (whole (.inl rfl)).trans ?_, (renders (.inl rfl)).2 [true, false, true, true]⟩
  rw [selected, printed, job, content, said]
  decide

end Command

end BuildWatch
