import BuildWatch.Proofs.Follow.Completion
import BuildWatch.Proofs.Follow.Progress
import BuildWatch.Proofs.Follow.Told

namespace BuildWatch

namespace Viewer

variable {viewer start : Viewer} {id : SessionId} {session : Session}
  {opening : Answers × Action} {action : Action} {job : String} {status : Status}
  {steps : List (Answers × Action)} {script earlier : List News} {news last : News}
  {stage : Stage}

/-- A session has completed, and a log is left on screen. -/
structure HasCompleted (viewer : Viewer) (id : SessionId) (log : SelectedLog) : Prop where
  outcome : (viewer.session? id).bind Session.outcome? = some .completed
  selected : viewer.state.selected = some log
  inactive : viewer.state.active = none
  still : viewer.state.isFollowing = false
  loaded : viewer.state.isLoadingLog = false

/-! ## What is left on screen -/

theorem AtHand.idle_of_over {outcome : Outcome} (atHand : AtHand viewer id session)
    (ended : session.stage = .over outcome) (natural : outcome ≠ .cancelled) :
    viewer.state.logView.Idle := by
  obtain rfl := atHand.newest
  have front := atHand.coherent.front_of_newest atHand.found
  generalize viewer.held? = holding at front
  cases front with
  | running running => simp [Session.isRunning, Session.isOver, ended] at running
  | ended _ finished left =>
    obtain rfl := Stage.over.inj (ended.symm.trans finished)
    rwa [if_neg natural] at left
  | stopped cancelled => simp [atHand.uncancelled] at cancelled

theorem AtHand.error_of_completing (atHand : AtHand viewer id { session with stage })
    (answers : Answers) (own : action.session? = some id) (tells : stage.news? action = some news)
    (completes : news.ending? = some .completed) :
    (viewer.act answers action).state.error = none := by
  rcases News.cases_of_completed completes with ⟨chunk, rfl, complete⟩ | ⟨snapshot, rfl, final⟩
  · obtain ⟨stream, other, rfl, rfl⟩ := Stage.receiving_of_news? tells
    obtain rfl : other = id := Option.some.inj own
    have running := atHand.isRunning rfl
    have accepted : viewer.state.accepts (.chunkReceived other chunk.line chunk.status) :=
      atHand.coherent.accepts_chunk atHand.found running atHand.planned
    have clear : (viewer.dispatch (.chunkReceived other chunk.line chunk.status)).state.error =
        none := by
      rw [dispatch_state, ViewState.reduce_of_accepts accepted]
      rfl
    have acted : viewer.act answers (.receive other (some (.ok chunk))) =
        viewer.received answers other { session with stage := .receiving stream }
          (some (.ok chunk)) := by
      simp only [act, turn, atHand.found]
    rw [acted, atHand.coherent.received_eq atHand.found running atHand.planned]
    dsimp only
    rw [if_pos complete]
    exact Told.error_of_live session.job ((Told.scroll_unless _).trans (.refreshFor none)) clear
  · obtain ⟨tick, other, rfl, rfl⟩ := Stage.fetching_of_news? tells
    obtain rfl : other = id := Option.some.inj own
    have running := atHand.isRunning rfl
    have accepted : viewer.state.accepts (.snapshotReceived other session.job snapshot) :=
      atHand.coherent.accepts_snapshot atHand.found running
    have clear :
        (viewer.dispatch (.snapshotReceived other session.job snapshot)).state.error = none := by
      rw [dispatch_state, ViewState.reduce_of_accepts accepted]
      rfl
    rw [atHand.act_snapshot answers rfl, atHand.coherent.polled_eq atHand.found running]
    refine Told.error_of_live session.job ?_ clear
    dsimp only
    split
    · exact Told.scroll.trans (.refreshFor _)
    · exact Told.scroll.trans (.goOn _)

theorem LiveRun.hasCompleted (run : LiveRun start opening steps job status)
    (all : newsOf (start.sessions.length + 1) (start.act opening.1 opening.2) steps = script)
    (atHand : AtHand ((start.act opening.1 opening.2).run steps) (start.sessions.length + 1)
      { start.liveSession opening job with stage := .over .completed }) :
    HasCompleted ((start.act opening.1 opening.2).run steps) (start.sessions.length + 1)
      (logAfter job status script) := by
  have idle := atHand.idle_of_over rfl (by simp)
  constructor
  · rw [atHand.found]
    rfl
  · rw [run.followed.selected, all]
    rfl
  · exact idle.inactive
  · exact idle.still
  · exact idle.loaded

theorem LiveRun.error_of_completed (run : LiveRun start opening steps job status)
    (all : newsOf (start.sessions.length + 1) (start.act opening.1 opening.2) steps = script)
    (ended : EndedBy script .completed earlier last) (calm : ∀ step ∈ steps, step.2.isCalm) :
    ((start.act opening.1 opening.2).run steps).state.error = none := by
  obtain ⟨before, final, later, rfl, -, brings⟩ := newsOf_eq_concat (all.trans ended.told)
  obtain ⟨stage, -, atHand⟩ := run.of_append.followed.stands
  obtain ⟨own, tells⟩ := eq_of_news? brings
  have clear := atHand.error_of_completing final.1 own (tells atHand.found)
    ended.ending
  rw [← run_concat] at clear
  rw [List.append_cons] at run ⊢
  exact run.error_of_calm (fun step member => calm step (by simp [member])) clear

theorem Performs.completes {schedule : Schedule}
    (performs : Performs start opening job status script schedule)
    (ended : EndedBy script .completed earlier last) : ∃ n, ∀ m, n ≤ m →
      HasCompleted ((start.act opening.1 opening.2).run (schedule.upTo m))
        (start.sessions.length + 1) (logAfter job status script) ∧
      ((∀ step ∈ schedule.upTo m, step.2.isCalm) →
        ((start.act opening.1 opening.2).run (schedule.upTo m)).state.error = none) := by
  obtain ⟨n, ends⟩ := performs.ends ended
  refine ⟨n, fun m later => ?_⟩
  obtain ⟨all, atHand⟩ := ends m later
  exact ⟨(performs.run m).hasCompleted all atHand, (performs.run m).error_of_completed all ended⟩

/-! ## Both scripts -/

theorem logAfter_chunks (chunks : List Chunk) :
    logAfter job status (chunks.map fun chunk => .item (some (.ok chunk))) =
      logOf job status chunks := by
  induction chunks using List.reverseRecOn with
  | nil => simp [logAfter, logOf]
  | append_singleton chunks chunk ih =>
    rw [List.map_append, List.map_singleton, logAfter_concat, ih, logOf_concat]
    rfl

theorem logAfter_answers (answered : List (Except Fault Snapshot)) (snapshot : Snapshot) :
    logAfter job status ((answered ++ [Except.ok snapshot]).map .answer) =
      { job, content := snapshot.content, status := snapshot.status } := by
  rw [List.map_append, List.map_singleton, logAfter_concat]
  simp [News.shownIn, SelectedLog.replace, job_logAfter]

theorem isAnswer_of_chunks {chunks : List Chunk}
    (member : news ∈ chunks.map fun chunk => News.item (some (.ok chunk))) :
    news.isAnswer = false := by
  obtain ⟨chunk, -, rfl⟩ := List.mem_map.mp member
  rfl

theorem isAnswer_of_answers {answered : List (Except Fault Snapshot)}
    (member : news ∈ answered.map News.answer) : news.isAnswer = true := by
  obtain ⟨result, -, rfl⟩ := List.mem_map.mp member
  rfl

theorem endedBy_chunks {chunks : List Chunk} {last : Chunk}
    (incomplete : ∀ chunk ∈ chunks, chunk.isComplete = false) (complete : last.isComplete) :
    EndedBy ((chunks ++ [last]).map fun chunk => .item (some (.ok chunk))) .completed
      (chunks.map fun chunk => .item (some (.ok chunk))) (.item (some (.ok last))) where
  told := List.map_append
  before news member := by
    obtain ⟨chunk, among, rfl⟩ := List.mem_map.mp member
    simp [News.ending?, endingOf?, incomplete chunk among]
  ending := by simp [News.ending?, endingOf?, complete]

theorem endedBy_answers {answered : List (Except Fault Snapshot)} {snapshot : Snapshot}
    (running : ∀ earlier, Except.ok earlier ∈ answered → earlier.status.isTerminal = false)
    (final : snapshot.status.isTerminal) :
    EndedBy ((answered ++ [Except.ok snapshot]).map .answer) .completed (answered.map .answer)
      (.answer (.ok snapshot)) where
  told := List.map_append
  before news member := by
    obtain ⟨result, among, rfl⟩ := List.mem_map.mp member
    cases result with
    | ok earlier => simp [News.ending?, running earlier among]
    | error fault => rfl
  ending := by simp [News.ending?, final]

/-- A session that follows a stream and one that polls, each opened for a running job and stopped by
nobody, come to leave the same on screen, if the last answer to the polls is the log that the chunks
add up to. What the answers before it show, and how many of them are faults, is of no account, nor
is what the viewers showed before. A message is left only by what a host does besides. Whatever the
chunks and the answers, there are schedules by which the sessions go through them. -/
theorem push_and_poll_agree (push poll : Viewer) (pushOpening pollOpening : Answers × Action)
    (job : String) (status : Status) (streams : push.config.transport = .stream)
    (polls : poll.config.transport = .poll) (pushOpens : LiveRun push pushOpening [] job status)
    (pollOpens : LiveRun poll pollOpening [] job status)
    (chunks : List Chunk) (last : Chunk) (answered : List (Except Fault Snapshot))
    (incomplete : ∀ chunk ∈ chunks, chunk.isComplete = false) (complete : last.isComplete)
    (running : ∀ snapshot, Except.ok snapshot ∈ answered → snapshot.status.isTerminal = false)
    (whole : Snapshot) (content : whole.content = String.join ((chunks ++ [last]).map Chunk.line))
    (same : whole.status = last.status) (final : last.status.isTerminal) :
    let log : SelectedLog := { job, content := whole.content, status := whole.status }
    let items := (chunks ++ [last]).map fun chunk => News.item (some (.ok chunk))
    let answers := (answered ++ [Except.ok whole]).map News.answer
    (∃ pushed polled, Performs push pushOpening job status items pushed ∧
      Performs poll pollOpening job status answers polled ∧
      ∀ n, (pushed n).2.isCalm ∧ (polled n).2.isCalm) ∧
    ∀ pushed polled, Performs push pushOpening job status items pushed →
      Performs poll pollOpening job status answers polled → ∃ n, ∀ m, n ≤ m →
        let pushViewer := (push.act pushOpening.1 pushOpening.2).run (pushed.upTo m)
        let pollViewer := (poll.act pollOpening.1 pollOpening.2).run (polled.upTo m)
        HasCompleted pushViewer (push.sessions.length + 1) log ∧
          HasCompleted pollViewer (poll.sessions.length + 1) log ∧
          ((∀ step ∈ pushed.upTo m ++ polled.upTo m, step.2.isCalm) →
            pushViewer.state.error = none ∧ pollViewer.state.error = none) := by
  intro log items answers
  have itemsEnd : EndedBy items .completed _ _ := endedBy_chunks incomplete complete
  have answersEnd : EndedBy answers .completed _ _ := endedBy_answers running (same ▸ final)
  have itemsShown : logAfter job status items = log := by
    rw [logAfter_chunks]
    simp [logOf, log, content, same]
  have answersShown : logAfter job status answers = log := logAfter_answers answered whole
  constructor
  · obtain ⟨pushed, pushPerforms, pushOwn⟩ := pushOpens.exists_performs itemsEnd
      fun news member => by rw [streams]; exact isAnswer_of_chunks member
    obtain ⟨polled, pollPerforms, pollOwn⟩ := pollOpens.exists_performs answersEnd
      fun news member => by rw [polls]; exact isAnswer_of_answers member
    exact ⟨pushed, polled, pushPerforms, pollPerforms, fun n =>
      ⟨Action.isCalm_of_own (pushOwn n), Action.isCalm_of_own (pollOwn n)⟩⟩
  · intro pushed polled pushPerforms pollPerforms
    obtain ⟨n, pushEnds⟩ := pushPerforms.completes itemsEnd
    obtain ⟨k, pollEnds⟩ := pollPerforms.completes answersEnd
    rw [itemsShown] at pushEnds
    rw [answersShown] at pollEnds
    refine ⟨max n k, fun m later => ?_⟩
    obtain ⟨pushDone, pushClear⟩ := pushEnds m (by omega)
    obtain ⟨pollDone, pollClear⟩ := pollEnds m (by omega)
    refine ⟨pushDone, pollDone, fun calm => ⟨pushClear ?_, pollClear ?_⟩⟩
    · exact fun step member => calm step (List.mem_append_left _ member)
    · exact fun step member => calm step (List.mem_append_right _ member)

theorem push_and_poll_agree_on_build :
    let items : List News := [.item (some (.ok ⟨"building...\n", .building, false⟩)),
      .item (some (.ok ⟨"", .building, false⟩)), .item (some (.ok ⟨"done\n", .success, true⟩))]
    let answers : List News := [.answer (.ok ⟨"building...\n", .building⟩),
      .answer (.error (.transport "lost")), .answer (.ok ⟨"building...\ndone\n", .success⟩)]
    let log : SelectedLog := { job := "j1", content := "building...\ndone\n", status := .success }
    let opening : Answers × Action := (.bare, .toggle "j1" .pending)
    ∃ pushed polled, Performs {} opening "j1" .pending items pushed ∧
      Performs { config := .polling 5 } opening "j1" .pending answers polled ∧
      ∃ n, ∀ m, n ≤ m →
        let pushViewer := (({} : Viewer).act .bare (.toggle "j1" .pending)).run (pushed.upTo m)
        let pollViewer :=
          (({ config := .polling 5 } : Viewer).act .bare (.toggle "j1" .pending)).run (polled.upTo m)
        HasCompleted pushViewer 1 log ∧ HasCompleted pollViewer 1 log ∧
          pushViewer.state.error = none ∧ pollViewer.state.error = none := by
  obtain ⟨⟨pushed, polled, pushPerforms, pollPerforms, calm⟩, agree⟩ :=
    push_and_poll_agree {} { config := .polling 5 } (.bare, .toggle "j1" .pending)
      (.bare, .toggle "j1" .pending) "j1" .pending rfl rfl
      { arises := ⟨{}, {}, [], by simp, rfl⟩, opens := rfl, hidden := rfl, live := rfl,
        proper := by decide, unstopped := by decide }
      { arises := ⟨.polling 5, .polling 5, [], by simp, rfl⟩, opens := rfl, hidden := rfl,
        live := rfl, proper := by decide, unstopped := by decide }
      [⟨"building...\n", .building, false⟩, ⟨"", .building, false⟩]
      ⟨"done\n", .success, true⟩ [.ok ⟨"building...\n", .building⟩, .error (.transport "lost")]
      (by decide) rfl (by simp; rfl) ⟨"building...\ndone\n", .success⟩ rfl rfl rfl
  obtain ⟨n, ends⟩ := agree pushed polled pushPerforms pollPerforms
  refine ⟨pushed, polled, pushPerforms, pollPerforms, n, fun m later => ?_⟩
  obtain ⟨pushDone, pollDone, clear⟩ := ends m later
  refine ⟨pushDone, pollDone, clear fun step member => ?_⟩
  rcases List.mem_append.mp member with first | second
  · obtain ⟨k, rfl⟩ := Schedule.eq_of_mem_upTo first
    exact (calm k).1
  · obtain ⟨k, rfl⟩ := Schedule.eq_of_mem_upTo second
    exact (calm k).2

end Viewer

end BuildWatch
