import BuildWatch.Proofs.Follow.AtHand

namespace BuildWatch.Viewer

variable {viewer middle after : Viewer} {id : SessionId} {session later : Session}
  {answers : Answers} {calls : List Call} {scrolls : List Scroll} {selected : Option SelectedLog}

structure Effect (viewer after : Viewer) (id : SessionId) (later : Session) (calls : List Call)
    (scrolls : List Scroll) (selected : Option SelectedLog) : Prop where
  found : after.session? id = some later
  length : after.sessions.length = viewer.sessions.length
  calls : after.calls = viewer.calls ++ calls
  scrolls : after.scrolls = viewer.scrolls ++ scrolls
  selected : after.state.selected = selected

def scrollCalls (viewport : Option Nat) (shown : Option SelectedLog) : List Scroll :=
  viewport.toList.map fun viewport => { viewport, shown }

/-! ## Parts of a turn -/

namespace Effect

theorem trans {earlier : Session} {calls' : List Call} {scrolls' : List Scroll}
    {selected' : Option SelectedLog}
    (left : Effect viewer middle id earlier calls scrolls selected)
    (right : Effect middle after id later calls' scrolls' selected') :
    Effect viewer after id later (calls ++ calls') (scrolls ++ scrolls') selected' where
  found := right.found
  length := right.length.trans left.length
  calls := by rw [right.calls, left.calls, List.append_assoc]
  scrolls := by rw [right.scrolls, left.scrolls, List.append_assoc]
  selected := right.selected

section
variable (found : viewer.session? id = some session)
include found

theorem refl : Effect viewer viewer id session [] [] viewer.state.selected :=
  ⟨found, rfl, by simp, by simp, rfl⟩

theorem call (call : Call) :
    Effect viewer (viewer.call call) id session [call] [] viewer.state.selected :=
  ⟨found, rfl, rfl, by simp [Viewer.call], rfl⟩

theorem setStage (stage : Stage) :
    Effect viewer (viewer.setStage id stage) id { session with stage } [] []
      viewer.state.selected :=
  ⟨session?_setStage_self found, setStage_sessions_length _ _, by simp [Viewer.setStage, modify],
    by simp [Viewer.setStage, modify], rfl⟩

theorem conclude (outcome : Outcome) :
    Effect viewer (viewer.conclude id outcome) id { session with stage := .over outcome } [] []
      viewer.state.selected := by
  have sessions := viewer.conclude_sessions id outcome
  refine ⟨?_, ?_, by simp, by simp, conclude_selected outcome⟩
  · rw [session?_congr id sessions, session?_setStage_self found]
  · rw [sessions, setStage_sessions_length]

theorem goOn (next : Option Nat) :
    Effect viewer (viewer.goOn id next) id { session with stage := stageAfter next } [] []
      viewer.state.selected := by
  cases next with
  | none => exact .conclude found .completed
  | some tick => exact .setStage found _

theorem refreshFor (answers : Answers) (uncancelled : session.isCancelled = false)
    (next : Option Nat) :
    ∃ stage, (stage = stageAfter next ∨
        stage = .listing next ∧ answers.delaysList ∧ session.challenge.isSome) ∧
      Effect viewer (viewer.refreshFor answers id session next) id { session with stage }
        (listCalls session.challenge) [] viewer.state.selected := by
  obtain ⟨stage, sessions, standing⟩ :=
    refreshFor_sessions uncancelled next viewer id answers
  refine ⟨stage, standing, ?_, ?_, refreshFor_calls uncancelled next, ?_, refreshFor_selected next⟩
  · rw [session?_congr id sessions, session?_setStage_self found]
  · rw [sessions, setStage_sessions_length]
  · simp [refreshFor_scrolls]

theorem scroll (teller : Session) : Effect viewer (viewer.scroll teller) id session []
    (scrollCalls teller.viewport viewer.state.selected) viewer.state.selected := by
  have alike : Alike viewer (viewer.scroll teller) := .scroll teller
  exact ⟨alike.session?.trans found, by rw [alike.sessions], by simp,
    scroll_scrolls viewer teller, alike.selected⟩

theorem dispatch {event : ViewEvent} (shown : (viewer.state.reduce event).selected = selected) :
    Effect viewer (viewer.dispatch event) id session [] [] selected :=
  ⟨found, rfl, by simp [Viewer.dispatch], by simp [Viewer.dispatch],
    by rw [dispatch_state, shown]⟩

theorem listed (next : Option Nat) (result : Except Fault (List Summary)) :
    Effect viewer (viewer.listed id next result) id { session with stage := stageAfter next } [] []
      viewer.state.selected := by
  have told : Alike viewer (viewer.listAnswered result).1 := .listAnswered result
  have goes : Effect (viewer.listAnswered result).1 (viewer.listed id next result) id _ [] [] _ :=
    .goOn (told.session?.trans found) next
  refine ⟨goes.found, ?_, ?_, ?_, goes.selected.trans told.selected⟩
  · rw [goes.length, told.sessions]
  · rw [goes.calls, listAnswered_calls]
  · rw [goes.scrolls, listAnswered_scrolls]

end

end Effect

theorem AtHand.of_effect (atHand : AtHand viewer id session) {stage : Stage}
    (coherent : Coherent .full after)
    (effect : Effect viewer after id { session with stage } calls scrolls selected) :
    AtHand after id { session with stage } where
  coherent := coherent
  newest := by rw [effect.length, atHand.newest]
  found := effect.found
  planned := atHand.planned
  uncancelled := atHand.uncancelled

/-! ## Turns with something to show -/

namespace AtHand

variable (atHand : AtHand viewer id session) (ongoing : session.isOver = false)
include atHand ongoing

theorem shows_chunk (answers : Answers) (chunk : Chunk) :
    let shown := viewer.state.selected.map fun log => log.append chunk.line chunk.status
    let scrolls := if chunk.line = "" then [] else scrollCalls session.viewport shown
    ∃ seen, Effect viewer seen id session [] scrolls shown ∧
      viewer.received answers id session (some (.ok chunk)) =
        if chunk.isComplete then seen.refreshFor answers id session none else seen := by
  intro shown scrolls
  have running := atHand.isRunning ongoing
  have accepted : viewer.state.accepts (.chunkReceived id chunk.line chunk.status) :=
    atHand.coherent.accepts_chunk atHand.found running atHand.planned
  have told : Effect viewer (viewer.dispatch (.chunkReceived id chunk.line chunk.status)) id
      session [] [] shown := by
    refine .dispatch atHand.found ?_
    rw [ViewState.reduce_of_accepts accepted]
    rfl
  rw [atHand.coherent.received_eq atHand.found running atHand.planned]
  dsimp only
  generalize viewer.dispatch (.chunkReceived id chunk.line chunk.status) = heard at told ⊢
  refine ⟨if chunk.line = "" then heard else heard.scroll session, ?_, rfl⟩
  by_cases silent : chunk.line = ""
  · simpa [silent, scrolls] using told
  · have moved := told.trans (.scroll told.found session)
    rw [told.selected] at moved
    simpa [silent, scrolls] using moved

theorem effect_received (answers : Answers) (chunk : Chunk) :
    let shown := viewer.state.selected.map fun log => log.append chunk.line chunk.status
    let scrolls := if chunk.line = "" then [] else scrollCalls session.viewport shown
    ∃ stage, (if chunk.isComplete then stage = .over .completed ∨ stage = .listing none ∧
          answers.delaysList ∧ session.challenge.isSome
        else stage = session.stage) ∧
      Effect viewer (viewer.received answers id session (some (.ok chunk))) id
        { session with stage }
        (if chunk.isComplete then listCalls session.challenge else []) scrolls shown := by
  intro shown scrolls
  obtain ⟨seen, showing, received⟩ := atHand.shows_chunk ongoing answers chunk
  rw [received]
  by_cases complete : chunk.isComplete
  · obtain ⟨stage, standing, refreshed⟩ :=
      Effect.refreshFor showing.found answers atHand.uncancelled none
    rw [showing.selected] at refreshed
    refine ⟨stage, by simpa [complete, stageAfter] using standing, ?_⟩
    simpa [complete] using showing.trans refreshed
  · exact ⟨session.stage, by simp [complete], by simpa [complete] using showing⟩

theorem shows_snapshot (answers : Answers) (tick : Nat) (snapshot : Snapshot) :
    let shown : SelectedLog :=
      { job := session.job, content := snapshot.content, status := snapshot.status }
    let next := if snapshot.status.isTerminal then none else some (tick + 1)
    ∃ seen, Effect viewer seen id session [] (scrollCalls session.viewport (some shown))
        (some shown) ∧
      viewer.polled answers id session tick (.ok snapshot) =
        if 0 < tick ∧ session.pollPlan.2 then seen.refreshFor answers id session next
        else seen.goOn id next := by
  intro shown next
  have running := atHand.isRunning ongoing
  have accepted : viewer.state.accepts (.snapshotReceived id session.job snapshot) :=
    atHand.coherent.accepts_snapshot atHand.found running
  have told : Effect viewer (viewer.dispatch (.snapshotReceived id session.job snapshot)) id
      session [] [] (some shown) := by
    refine .dispatch atHand.found ?_
    rw [ViewState.reduce_of_accepts accepted, ViewState.apply_snapshot]
  have moved := told.trans (.scroll told.found session)
  rw [told.selected] at moved
  exact ⟨_, moved, atHand.coherent.polled_eq atHand.found running tick snapshot⟩

theorem effect_polled (answers : Answers) (tick : Nat) (snapshot : Snapshot) :
    let shown : SelectedLog :=
      { job := session.job, content := snapshot.content, status := snapshot.status }
    let next := if snapshot.status.isTerminal then none else some (tick + 1)
    ∃ stage, (stage = stageAfter next ∨
        stage = .listing next ∧ answers.delaysList ∧ session.challenge.isSome) ∧
      Effect viewer (viewer.polled answers id session tick (.ok snapshot)) id
        { session with stage }
        (if 0 < tick ∧ session.pollPlan.2 then listCalls session.challenge else [])
        (scrollCalls session.viewport (some shown)) (some shown) := by
  intro shown next
  obtain ⟨seen, showing, polled⟩ := atHand.shows_snapshot ongoing answers tick snapshot
  rw [polled]
  by_cases refreshes : 0 < tick ∧ session.pollPlan.2
  · obtain ⟨stage, standing, refreshed⟩ :=
      Effect.refreshFor showing.found answers atHand.uncancelled next
    rw [showing.selected] at refreshed
    refine ⟨stage, standing, ?_⟩
    simpa [refreshes] using showing.trans refreshed
  · have goes := showing.trans (.goOn showing.found next)
    rw [showing.selected] at goes
    refine ⟨_, .inl rfl, ?_⟩
    simpa [refreshes] using goes

end AtHand

/-! ## Turns of a session that polls -/

namespace AtHand

variable {tick : Nat} (answers : Answers) (atHand : AtHand viewer id session)
include atHand

theorem effect_poll (tick : Nat) : Effect viewer (viewer.poll id session tick) id
    { session with stage := .fetching tick } [.snapshot session.job] []
      viewer.state.selected := by
  have asked : Effect viewer (viewer.call (.snapshot session.job)) id session _ _ _ :=
    .call atHand.found _
  exact asked.trans (.setStage asked.found _)

theorem act_start {interval : Nat} {refreshes : Bool} (ready : session.stage = .ready)
    (plan : session.plan = some (.pollLoop interval refreshes)) :
    viewer.act answers (.start id) = viewer.poll id session 0 := by
  simp [act, turn, atHand.found, ready, begin, atHand.uncancelled, plan]

theorem act_wake (resting : session.stage = .resting tick) :
    viewer.act answers (.wake id) = viewer.poll id session tick := by
  simp [act, turn, atHand.found, resting, rested, atHand.uncancelled]

section
variable (fetching : session.stage = .fetching tick)
include fetching

theorem act_fault (fault : Fault) : viewer.act answers (.answer id (.error fault)) =
    viewer.setStage id (.resting (tick + 1)) := by
  simp [act, turn, atHand.found, fetching, polled, atHand.uncancelled]

theorem act_snapshot (snapshot : Snapshot) : viewer.act answers (.answer id (.ok snapshot)) =
    viewer.polled answers id session tick (.ok snapshot) := by
  simp [act, turn, atHand.found, fetching]

end

end AtHand

end BuildWatch.Viewer
