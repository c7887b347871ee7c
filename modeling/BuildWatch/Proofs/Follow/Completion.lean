import BuildWatch.Proofs.Follow.News
import BuildWatch.Wire.Frame

namespace BuildWatch

/-! ## Frames that announce the end -/

/-- The status that a frame gives for a job that is complete, if it says that. -/
def Wire.announced? (text : String) : Option Status :=
  if isStructured text then
    (frame.decode text).toOption.bind fun frame =>
      if frame.isComplete then some frame.status else none
  else (marker? text).map Prod.fst

theorem Wire.announced?_of_decodeFrame {text : String} {chunk : Chunk}
    (decoded : decodeFrame text = .ok chunk) (complete : chunk.isComplete) :
    announced? text = some chunk.status := by
  unfold decodeFrame at decoded
  unfold announced?
  split at decoded
  · rename_i structured
    rw [if_pos structured]
    split at decoded
    · cases decoded
    · rename_i frame read
      split at decoded
      · cases decoded
      · rename_i told result
        obtain rfl : told = chunk := by simpa using decoded
        rw [Frame.result] at result
        cases checked : Fault.check frame.errorMessage with
        | error fault =>
          rw [checked] at result
          cases result
        | ok =>
          rw [checked] at result
          obtain rfl := Except.ok.inj result
          simpa [read, Except.toOption] using complete
  · rename_i plain
    rw [if_neg plain]
    split at decoded
    · rename_i status detail marked
      obtain rfl := Except.ok.inj decoded
      rw [marked]
      rfl
    · obtain rfl := Except.ok.inj decoded
      cases complete

/-! ## News that completes a session -/

theorem News.cases_of_completed {news : News} (completes : news.ending? = some .completed) :
    (∃ chunk, news = .item (some (.ok chunk)) ∧ chunk.isComplete) ∨
      ∃ snapshot, news = .answer (.ok snapshot) ∧ snapshot.status.isTerminal := by
  match news with
  | .item none => cases completes
  | .item (some (.error fault)) =>
    simp only [ending?, Viewer.endingOf?, Option.some.injEq] at completes
    split at completes <;> cases completes
  | .item (some (.ok chunk)) =>
    exact .inl ⟨chunk, rfl, by simpa [ending?, Viewer.endingOf?] using completes⟩
  | .answer (.ok snapshot) => exact .inr ⟨snapshot, rfl, by simpa [ending?] using completes⟩
  | .answer (.error fault) => cases completes

namespace Stage

variable {stage : Stage} {action : Action}

theorem receiving_of_news? {chunk : Chunk}
    (tells : stage.news? action = some (.item (some (.ok chunk)))) :
    ∃ stream id, stage = .receiving stream ∧ action = .receive id (some (.ok chunk)) := by
  unfold news? at tells
  split at tells <;> simp_all

theorem fetching_of_news? {result : Except Fault Snapshot}
    (tells : stage.news? action = some (.answer result)) :
    ∃ tick id, stage = .fetching tick ∧ action = .answer id result := by
  unfold news? at tells
  split at tells <;> simp_all

end Stage

namespace Viewer

variable {viewer opened : Viewer} {id : SessionId} {session : Session} {action : Action}
  {status : Status} {steps : List (Answers × Action)} {told : List News} {news : News}
  {stage : Stage}

theorem AtHand.act_of_completing {log : SelectedLog} (answers : Answers)
    (standing : Standing session.plan told stage)
    (atHand : AtHand viewer id { session with stage }) (own : action.session? = some id)
    (tells : stage.news? action = some news) (completes : news.ending? = some .completed)
    (shown : viewer.state.selected = some log) (belongs : log.job = session.job) :
    { session with stage }.isOver = false ∧
      ∃ seen : Viewer, seen.calls = viewer.calls ∧
        seen.session? id = some { session with stage } ∧
        seen.state.selected = some (news.shownIn log) ∧
        viewer.act answers action =
          if news.refreshes session told.length then
            seen.refreshFor answers id { session with stage } none
          else seen.goOn id none := by
  rcases News.cases_of_completed completes with ⟨chunk, rfl, complete⟩ | ⟨snapshot, rfl, final⟩
  · obtain ⟨stream, other, rfl, rfl⟩ := Stage.receiving_of_news? tells
    obtain rfl : other = id := Option.some.inj own
    obtain ⟨seen, showing, received⟩ := atHand.shows_chunk rfl answers chunk
    refine ⟨rfl, seen, by rw [showing.calls, List.append_nil], showing.found, ?_, ?_⟩
    · rw [showing.selected, shown]
      rfl
    · simpa [act, turn, atHand.found, News.refreshes, endingOf?, complete] using received
  · obtain ⟨tick, other, rfl, rfl⟩ := Stage.fetching_of_news? tells
    obtain rfl : other = id := Option.some.inj own
    obtain rfl : tick = told.length := by
      cases standing
      rfl
    obtain ⟨seen, showing, polled⟩ := atHand.shows_snapshot rfl answers told.length snapshot
    rw [← atHand.act_snapshot answers rfl] at polled
    refine ⟨rfl, seen, by rw [showing.calls, List.append_nil], showing.found, ?_, ?_⟩
    · rw [showing.selected, ← belongs]
      rfl
    · rw [polled]
      simp [News.refreshes, final, Session.pollPlan]

namespace Followed

variable (followed : Followed opened id session status steps)
include followed

theorem ended {outcome : Outcome}
    (finished : ((opened.run steps).session? id).bind Session.outcome? = some outcome) :
    ∃ earlier last, EndedBy (newsOf id opened steps) outcome earlier last := by
  obtain ⟨stage, standing, atHand⟩ := followed.stands
  rw [atHand.found] at finished
  cases standing with
  | finished ended =>
    obtain rfl := Option.some.inj finished
    exact ⟨_, _, ended⟩
  | _ => cases finished

theorem selected_of_ended {outcome : Outcome} {earlier : List News} {last : News}
    (ended : EndedBy (newsOf id opened steps) outcome earlier last) :
    (opened.run steps).state.selected =
      some (last.shownIn (logAfter session.job status earlier)) := by
  rw [followed.selected, ended.told, logAfter_concat]

end Followed

/-! ## Main results -/

/-- When a session has completed, the log on screen has the status that it was told last. With polls
that is the one of the last answer, and a final one. With a stream it is the one of the chunk that
said that the job is complete, and on the wire the one of the frame, be it final or not. -/
theorem completed_status_was_told (start : Viewer) (opening : Answers × Action)
    (after : List (Answers × Action)) (job : String) (status : Status)
    (run : LiveRun start opening after job status)
    (completed : (((start.act opening.1 opening.2).run after).session?
      (start.sessions.length + 1)).bind Session.outcome? = some .completed) :
    let id := start.sessions.length + 1
    let opened := start.act opening.1 opening.2
    ∃ log, (opened.run after).state.selected = some log ∧ log.job = job ∧
      (start.config.transport = .poll → ∃ earlier snapshot,
        newsOf id opened after = earlier ++ [.answer (.ok snapshot)] ∧
        log.status = snapshot.status ∧ log.status.isTerminal) ∧
      (start.config.transport = .stream → ∃ earlier chunk,
        newsOf id opened after = earlier ++ [.item (some (.ok chunk))] ∧ chunk.isComplete ∧
        log.status = chunk.status ∧ ∀ text, Wire.decodeFrame text = .ok chunk →
          Wire.announced? text = some log.status) := by
  intro id opened
  have followed := run.followed
  obtain ⟨earlier, last, ended⟩ := followed.ended completed
  have kind : last.isAnswer = _ := run.isAnswer (by simp [ended.told])
  have selected := followed.selected_of_ended ended
  rw [← logAfter_concat] at selected
  refine ⟨_, selected, job_logAfter _, fun polls => ?_, fun streams => ?_⟩
  · rcases News.cases_of_completed ended.ending with ⟨chunk, rfl, -⟩ | ⟨snapshot, rfl, final⟩
    · simp [News.isAnswer, polls] at kind
    · have statusEq : (logAfter job status (earlier ++ [.answer (.ok snapshot)])).status =
          snapshot.status := by
        rw [logAfter_concat]
        rfl
      exact ⟨earlier, snapshot, ended.told, statusEq, statusEq ▸ final⟩
  · rcases News.cases_of_completed ended.ending with ⟨chunk, rfl, complete⟩ | ⟨snapshot, rfl, -⟩
    · refine ⟨earlier, chunk, ended.told, complete, ?_, fun text decoded => ?_⟩
      · rw [logAfter_concat]
        rfl
      · rw [Wire.announced?_of_decodeFrame decoded complete, logAfter_concat]
        rfl
    · simp [News.isAnswer, streams] at kind

theorem completed_with_last_update :
    let streamed : List (Answers × Action) := [(.bare, .start 1), (.bare, .openStream 1 (.ok 7)),
      (.bare, .receive 1 (some (.ok ⟨"made\n", .building, false⟩))), (.bare, .toggleList),
      (.bare, .receive 1 (some (.ok ⟨"", .failed, true⟩)))]
    let polled : List (Answers × Action) := [(.bare, .start 1),
      (.bare, .answer 1 (.error (.transport "lost"))), (.bare, .wake 1),
      (.bare, .answer 1 (.ok ⟨"made\n", .success⟩))]
    let following := ({} : Viewer).act .bare (.toggle "j1" .building)
    let polling := ({ config := .polling 5 } : Viewer).act .bare (.toggle "j1" .building)
    (∃ log, (following.run streamed).state.selected = some log ∧ log.job = "j1" ∧
      ∃ earlier chunk, newsOf 1 following streamed = earlier ++ [.item (some (.ok chunk))] ∧
        chunk.isComplete ∧ log.status = chunk.status ∧
        ∀ text, Wire.decodeFrame text = .ok chunk → Wire.announced? text = some log.status) ∧
    ∃ log, (polling.run polled).state.selected = some log ∧ log.job = "j1" ∧
      ∃ earlier snapshot, newsOf 1 polling polled = earlier ++ [.answer (.ok snapshot)] ∧
        log.status = snapshot.status ∧ log.status.isTerminal := by
  constructor
  · obtain ⟨log, selected, belongs, -, streams⟩ := completed_status_was_told {}
      (.bare, .toggle "j1" .building) [(.bare, .start 1), (.bare, .openStream 1 (.ok 7)),
        (.bare, .receive 1 (some (.ok ⟨"made\n", .building, false⟩))), (.bare, .toggleList),
        (.bare, .receive 1 (some (.ok ⟨"", .failed, true⟩)))] "j1" .building
      { arises := ⟨{}, {}, [], by simp, rfl⟩, opens := rfl, hidden := rfl, live := rfl,
        proper := by decide, unstopped := by decide } rfl
    exact ⟨log, selected, belongs, streams rfl⟩
  · obtain ⟨log, selected, belongs, polls, -⟩ := completed_status_was_told
      { config := .polling 5 } (.bare, .toggle "j1" .building) [(.bare, .start 1),
        (.bare, .answer 1 (.error (.transport "lost"))), (.bare, .wake 1),
        (.bare, .answer 1 (.ok ⟨"made\n", .success⟩))] "j1" .building
      { arises := ⟨.polling 5, .polling 5, [], by simp, rfl⟩, opens := rfl, hidden := rfl,
        live := rfl, proper := by decide, unstopped := by decide } rfl
    exact ⟨log, selected, belongs, polls rfl⟩

/-- A chunk may say that a job is complete and yet give it the status of a running one, and a marker
may give a status that nobody knows. -/
theorem completed_while_building :
    let after : List (Answers × Action) := [(.bare, .start 1), (.bare, .openStream 1 (.ok 7)),
      (.bare, .receive 1 (some (.ok ⟨"made\n", .building, true⟩)))]
    let viewer := (({} : Viewer).act .bare (.toggle "j1" .building)).run after
    (viewer.session? 1).bind Session.outcome? = some .completed ∧ viewer.isUnstopped 1 ∧
      viewer.state.selected = some { job := "j1", content := "made\n", status := .building } ∧
      Status.isTerminal .building = false ∧
      Wire.decodeFrame "BUILD_COMPLETE:later" = .ok ⟨"", .unspecified, true⟩ ∧
      Status.isTerminal .unspecified = false := by
  decide

/-- When a session completes, the log it was told last is on screen and then the list is asked for,
unless that log came with the first answer to a poll. In that case the session never asks for it. -/
theorem completion_refreshes_list_unless_first (start : Viewer) (opening : Answers × Action)
    (after : List (Answers × Action)) (job : String) (status : Status)
    (run : LiveRun start opening after job status)
    (completed : (((start.act opening.1 opening.2).run after).session?
      (start.sessions.length + 1)).bind Session.outcome? = some .completed)
    {challenge : String} (known : (start.act opening.1 opening.2).challenge = some challenge)
    (refreshing : start.config.transport = .poll → start.config.refreshesList) :
    let id := start.sessions.length + 1
    let opened := start.act opening.1 opening.2
    let refreshes := start.config.transport = .stream ∨ 1 < (newsOf id opened after).length
    (refreshes → ∃ before final later, after = before ++ final :: later ∧
      ∃ (seen : Viewer) (session : Session), seen.calls = (opened.run before).calls ∧
        seen.state.selected = (opened.run after).state.selected ∧
        seen.session? id = some session ∧ session.isOver = false ∧
        (opened.run before).act final.1 final.2 = seen.refreshFor final.1 id session none ∧
        ((opened.run before).act final.1 final.2).calls =
          (opened.run before).calls ++ [.list challenge]) ∧
    (¬ refreshes → ownRecord listsAsked id opened after = []) := by
  intro id opened refreshes
  have followed := run.followed
  obtain ⟨earlier, last, ended⟩ := followed.ended completed
  have kind : last.isAnswer = _ := run.isAnswer (by simp [ended.told])
  have count : (newsOf id opened after).length = earlier.length + 1 :=
    (congrArg List.length ended.told).trans List.length_append
  have refreshesIff : last.refreshes (start.liveSession opening job) earlier.length ↔
      refreshes := by
    rcases News.cases_of_completed ended.ending with ⟨chunk, rfl, complete⟩ | ⟨snapshot, rfl, -⟩
    · cases streams : start.config.transport with
      | stream => simp [News.refreshes, endingOf?, complete, refreshes, streams]
      | poll => simp [News.isAnswer, streams] at kind
    · cases polls : start.config.transport with
      | stream => simp [News.isAnswer, polls] at kind
      | poll =>
        simp [News.refreshes, liveSession_pollPlan polls, refreshing polls, refreshes, polls, count]
  refine ⟨fun holds => ?_, fun fails => ?_⟩
  · obtain ⟨before, final, later, rfl, rfl, brings⟩ := newsOf_eq_concat ended.told
    have prior := run.of_append.followed
    obtain ⟨stage, standing, atHand⟩ := prior.stands
    obtain ⟨own, tells⟩ := eq_of_news? brings
    obtain ⟨ongoing, seen, calls, found, shown, acted⟩ := atHand.act_of_completing
      final.1 standing own (tells atHand.found) ended.ending prior.selected
      (job_logAfter _)
    rw [if_pos (refreshesIff.mpr holds)] at acted
    refine ⟨before, final, later, rfl, seen, _, calls, ?_, found, ongoing, acted, ?_⟩
    · rw [shown, followed.selected_of_ended ended]
    · have asks : (start.liveSession opening job).challenge = some challenge := known
      rw [acted, refreshFor_calls rfl, calls, asks]
      rfl
  · have only : earlier = [] := by
      have few : ¬ 1 < (newsOf id opened after).length := fun many => fails (.inr many)
      rw [count] at few
      exact List.length_eq_zero_iff.mp (by omega)
    rw [followed.lists, ended.told, listsFor_concat,
      if_neg fun holds => fails (refreshesIff.mp holds), only]
    rfl

theorem second_poll_refreshes_list :
    let start := Viewer.run { config := { transport := .poll } }
      [(.bare, .setChallenge (some "c1"))]
    let after : List (Answers × Action) := [(.bare, .start 1),
      (.bare, .answer 1 (.error (.transport "lost"))), (.bare, .wake 1),
      (.bare, .answer 1 (.ok ⟨"made", .success⟩))]
    let opened := start.act .bare (.toggle "j1" .building)
    ∃ before final later, after = before ++ final :: later ∧
      ∃ (seen : Viewer) (session : Session), seen.calls = (opened.run before).calls ∧
        seen.state.selected = (opened.run after).state.selected ∧
        seen.session? 1 = some session ∧ session.isOver = false ∧
        (opened.run before).act final.1 final.2 = seen.refreshFor final.1 1 session none ∧
        ((opened.run before).act final.1 final.2).calls =
          (opened.run before).calls ++ [.list "c1"] :=
  (completion_refreshes_list_unless_first
    (Viewer.run { config := { transport := .poll } } [(.bare, .setChallenge (some "c1"))])
    (.bare, .toggle "j1" .building)
    [(.bare, .start 1), (.bare, .answer 1 (.error (.transport "lost"))), (.bare, .wake 1),
      (.bare, .answer 1 (.ok ⟨"made", .success⟩))]
    "j1" .building
    { arises := ⟨_, _, _, by decide, rfl⟩, opens := rfl, hidden := rfl, live := rfl,
      proper := by decide, unstopped := by decide }
    rfl rfl fun _ => rfl).1 (.inr (by decide))

/-- The job has finished before the first poll, and the list goes on showing it as running. -/
theorem first_poll_refreshes_no_list :
    let start := Viewer.run { config := { transport := .poll } }
      [(.bare, .setChallenge (some "c1"))]
    let opened := start.act .bare (.toggle "j1" .building)
    let viewer := opened.run [(.bare, .start 1), (.bare, .answer 1 (.ok ⟨"made", .success⟩))]
    start.config.refreshesList ∧ opened.challenge = some "c1" ∧
      (viewer.session? 1).bind Session.outcome? = some .completed ∧ viewer.isUnstopped 1 ∧
      viewer.state.selected = some { job := "j1", content := "made", status := .success } ∧
      viewer.calls = [.snapshot "j1"] := by
  decide

end Viewer

end BuildWatch
