import BuildWatch.Proofs.Follow.Runs

namespace BuildWatch.Viewer

variable {may : Leeway} {viewer after : Viewer} {id : SessionId} {session : Session}
  {answers : Answers}

/-! ## What is received is shown -/

theorem Alike.selected (alike : Alike viewer after) :
    after.state.selected = viewer.state.selected :=
  congrArg LogView.selected alike.logView

theorem Alike.active (alike : Alike viewer after) : after.state.active = viewer.state.active :=
  congrArg LogView.active alike.logView

theorem conclude_selected (outcome : Outcome) :
    (viewer.conclude id outcome).state.selected = viewer.state.selected := by
  rw [conclude_state]
  split
  · rfl
  · unfold ViewState.reduce
    split <;> rfl

theorem goOn_selected (next : Option Nat) :
    (viewer.goOn id next).state.selected = viewer.state.selected := by
  cases next with
  | none => exact conclude_selected .completed
  | some tick => rfl

theorem refreshFor_selected (next : Option Nat) :
    (viewer.refreshFor answers id session next).state.selected = viewer.state.selected := by
  unfold refreshFor
  split
  · exact goOn_selected next
  · rename_i challenge _
    split
    · exact goOn_selected next
    · split
      · exact (Alike.askList challenge).selected
      · exact (goOn_selected next).trans (Alike.loadList answers challenge).selected

/-- A live session has the screen: it is the active one, and its job is the one on screen. -/
structure Follows (viewer : Viewer) (id : SessionId) (session : Session) : Prop where
  active : viewer.state.active = some id
  following : viewer.state.isFollowing = true
  loaded : viewer.state.isLoadingLog = false
  log : ∃ log, viewer.state.selected = some log ∧ log.job = session.job

structure Hears (viewer : Viewer) (id : SessionId) (session : Session) : Prop where
  chunk : ∀ answers stream chunk, session.stage = .receiving stream →
    (viewer.act answers (.receive id (some (.ok chunk)))).state.selected =
      viewer.state.selected.map fun log => log.append chunk.line chunk.status
  snapshot : ∀ answers tick (snapshot : Snapshot), session.stage = .fetching tick →
    (viewer.act answers (.answer id (.ok snapshot))).state.selected =
      some { job := session.job, content := snapshot.content, status := snapshot.status }

namespace Coherent

variable (coherent : Coherent may viewer) (found : viewer.session? id = some session)
  (running : session.isRunning) (planned : session.plan.isSome)
include coherent found running planned

theorem follows : viewer.Follows id session := by
  obtain ⟨shows, -⟩ := coherent.front_of_isRunning found running
  obtain ⟨plan, planEq⟩ := Option.isSome_iff_exists.mp planned
  have following : viewer.state.isFollowing = session.plan.isSome := shows.following
  have loading : viewer.state.isLoadingLog = session.plan.isNone := shows.loading
  have job : viewer.state.selected.map SelectedLog.job = session.plan.map fun _ => session.job :=
    shows.job
  rw [planEq] at following loading job
  exact ⟨shows.active, following, loading, Option.map_eq_some_iff.mp job⟩

theorem hears : viewer.Hears id session := by
  constructor
  · intro answers stream chunk receiving
    simp only [act, turn, found, receiving]
    rw [coherent.received_eq found running planned]
    dsimp only
    have told : (viewer.dispatch (.chunkReceived id chunk.line chunk.status)).state.selected =
        viewer.state.selected.map fun log => log.append chunk.line chunk.status := by
      rw [dispatch_state,
        ViewState.reduce_of_accepts (coherent.accepts_chunk found running planned)]
      rfl
    have scrolled : Alike (viewer.dispatch (.chunkReceived id chunk.line chunk.status)) _ :=
      .scroll_unless session (chunk.line = "")
    split
    · exact (refreshFor_selected none).trans (scrolled.selected.trans told)
    · exact scrolled.selected.trans told
  · intro answers tick snapshot fetching
    simp only [act, turn, found, fetching]
    rw [coherent.polled_eq found running]
    dsimp only
    have told : (viewer.dispatch (.snapshotReceived id session.job snapshot)).state.selected =
        some { job := session.job, content := snapshot.content, status := snapshot.status } := by
      rw [dispatch_state, ViewState.reduce_of_accepts (coherent.accepts_snapshot found running),
        ViewState.apply_snapshot]
    have scrolled : Alike (viewer.dispatch (.snapshotReceived id session.job snapshot)) _ :=
      .scroll session
    split
    · exact (refreshFor_selected _).trans (scrolled.selected.trans told)
    · exact (goOn_selected _).trans (scrolled.selected.trans told)

end Coherent

/-- In every run, a live session that has neither been stopped nor come to its end has the screen,
and all that it receives is shown. No session ever finds that another one has taken over. -/
theorem running_session_is_followed (config : ViewerConfig) (steps : List (Answers × Action))
    (proper : ∀ step ∈ steps, step.2.isProper) :
    let viewer := Viewer.run { config } steps
    (∀ id session, viewer.session? id = some session → session.stage ≠ .over .superseded) ∧
      ∀ id session, viewer.session? id = some session → session.plan.isSome →
        session.isCancelled = false → session.isOver = false →
          viewer.Follows id session ∧ viewer.Hears id session := by
  have coherent : Coherent .full (Viewer.run { config } steps) :=
    coherent_run fun step member => .full (proper step member)
  intro viewer
  constructor
  · intro id session found finished
    have said := (coherent.fits found).2
    rw [finished] at said
    exact said.1 rfl
  · intro id session found planned uncancelled ongoing
    have running := Session.isRunning_iff.mpr ⟨uncancelled, ongoing⟩
    exact ⟨coherent.follows found running planned, coherent.hears found running planned⟩

theorem follows_beside_stale_load :
    let steps : List (Answers × Action) := [(.bare, .toggle "old" .success),
      (.bare, .toggle "new" .building), (.bare, .start 2), (.bare, .openStream 2 (.ok 5)),
      (.bare, .answer 1 (.ok { content := "late", status := .success }))]
    (Viewer.run {} steps).Follows 2
      { job := "new", challenge := none, viewport := none, plan := some .pushStream,
        stage := .receiving 5 } :=
  ((running_session_is_followed {} [(.bare, .toggle "old" .success),
    (.bare, .toggle "new" .building), (.bare, .start 2), (.bare, .openStream 2 (.ok 5)),
    (.bare, .answer 1 (.ok { content := "late", status := .success }))] (by decide)).2 2 _ rfl rfl
      rfl rfl).1

/-! ## What the screen claims -/

/-- The screen claims activity exactly for the session at hand, as long as that runs. -/
structure Truthful (viewer : Viewer) : Prop where
  active : ∀ id, viewer.state.active = some id ↔
    viewer.current.map Slot.session = some id ∧ ∃ session, viewer.session? id = some session ∧
      session.isCancelled = false ∧ session.isOver = false
  job : ∀ job, viewer.activeJob = some job → ∃ id session,
    viewer.current.map Slot.session = some id ∧ viewer.session? id = some session ∧
      session.job = job ∧ session.isCancelled = false ∧ session.isOver = false
  flags : viewer.state.isFollowing || viewer.state.isLoadingLog → viewer.state.active.isSome

/-- Whether the newest session came to an end because the platform gave up a call. Nobody has
stopped it, and still its end is not told. -/
def isAbandoned (viewer : Viewer) : Bool :=
  viewer.newest?.any fun session => !session.isCancelled && session.stage == .over .cancelled

namespace Coherent

theorem isRunning_of_active (coherent : Coherent may viewer) (stays : ¬ may.leave)
    (active : viewer.state.active = some id) :
    viewer.isAbandoned ∨ ∃ session, viewer.session? id = some session ∧ session.isRunning ∧
      viewer.held? = some (id, session.job) := by
  have front := coherent.front
  obtain rfl := front.active active
  generalize newestEq : viewer.newest? = newest at front
  generalize heldEq : viewer.held? = holding at front
  cases front with
  | empty idle => exact absurd active (idle.active_ne _)
  | @running session running shows => exact .inr ⟨session, newestEq, running, rfl⟩
  | @ended session outcome uncancelled finished left =>
    split at left
    · rename_i aborted
      exact .inl (by simp [isAbandoned, newestEq, uncancelled, finished, aborted])
    · exact absurd active (left.active_ne _)
  | stopped cancelled left =>
    rcases left with idle | ⟨gone, -, -⟩
    · exact absurd active (idle.active_ne _)
    · exact absurd gone stays

theorem idle_of_inactive (coherent : Coherent may viewer) (inactive : viewer.state.active = none) :
    viewer.state.logView.Idle := by
  have silent {other : SessionId} : viewer.state.logView.active ≠ some other := fun active =>
    absurd (inactive.symm.trans active) (by simp)
  have front := coherent.front
  generalize viewer.newest? = newest at front
  generalize viewer.held? = holding at front
  cases front with
  | empty idle => exact idle
  | running _ shows => exact absurd shows.active silent
  | ended _ _ left =>
    split at left
    · exact absurd left.active silent
    · exact left
  | stopped _ left => exact left.resolve_right fun gone => silent gone.2.2.active

theorem active_of_isAbandoned (coherent : Coherent may viewer) (abandoned : viewer.isAbandoned) :
    ∃ session, viewer.newest? = some session ∧ session.isOver ∧
      viewer.state.active = some viewer.sessions.length := by
  obtain ⟨session, newestEq, givenUp⟩ := Option.any_eq_true _ _ |>.mp abandoned
  obtain ⟨uncancelled, finished⟩ :
      session.isCancelled = false ∧ session.stage = .over .cancelled := by
    simpa using givenUp
  refine ⟨session, newestEq, by simp [Session.isOver, finished], ?_⟩
  have front := coherent.front
  rw [newestEq] at front
  generalize viewer.held? = holding at front
  cases front with
  | running running => simp [Session.isRunning, Session.isOver, finished] at running
  | @ended _ outcome _ ending left =>
    obtain rfl : outcome = .cancelled := by simpa [finished, eq_comm] using ending
    rw [if_pos rfl] at left
    exact left.active
  | stopped cancelled => simp [uncancelled] at cancelled

theorem truthful_iff (coherent : Coherent may viewer) (stays : ¬ may.leave) :
    viewer.Truthful ↔ viewer.isAbandoned = false := by
  constructor
  · intro truthful
    rw [Bool.eq_false_iff]
    intro abandoned
    obtain ⟨session, newestEq, finished, active⟩ := coherent.active_of_isAbandoned abandoned
    obtain ⟨-, running, found, -, ongoing⟩ := (truthful.active _).mp active
    obtain rfl : session = running := Option.some.inj (newestEq.symm.trans found)
    simp [finished] at ongoing
  · intro sound
    have owner {id : SessionId} (active : viewer.state.active = some id) :=
      (coherent.isRunning_of_active stays active).resolve_left (by simp [sound])
    refine ⟨fun id => ⟨fun active => ?_, ?_⟩, fun job shown => ?_, fun flag => ?_⟩
    · obtain ⟨session, found, running, held⟩ := owner active
      obtain ⟨uncancelled, ongoing⟩ := Session.isRunning_iff.mp running
      exact ⟨by simp [current_session, held], session, found, uncancelled, ongoing⟩
    · rintro ⟨-, session, found, uncancelled, ongoing⟩
      have running := Session.isRunning_iff.mpr ⟨uncancelled, ongoing⟩
      exact (coherent.front_of_isRunning found running).1.active
    · obtain ⟨id, atHand, active⟩ := activeJob_eq_some.mp shown
      obtain ⟨session, found, running, held⟩ := owner active
      obtain ⟨uncancelled, ongoing⟩ := Session.isRunning_iff.mp running
      obtain rfl : session.job = job := by simpa [atHand, eq_comm] using held
      exact ⟨id, session, by simp [current_session, held], found, rfl, uncancelled, ongoing⟩
    · cases active : viewer.state.active with
      | some id => rfl
      | none =>
        obtain ⟨-, still, loaded⟩ := coherent.idle_of_inactive active
        change viewer.state.isFollowing = false at still
        change viewer.state.isLoadingLog = false at loaded
        simp [still, loaded] at flag

end Coherent

/-- As long as the viewer has not gone away, the screen claims activity exactly for the session at
hand while that runs, unless the newest session has been abandoned. -/
theorem screen_truthful_iff (config : ViewerConfig) (steps : List (Answers × Action))
    (proper : ∀ step ∈ steps, step.2.isProper) (stays : ∀ step ∈ steps, step.2 ≠ .drop) :
    (Viewer.run { config } steps).Truthful ↔
      (Viewer.run { config } steps).isAbandoned = false := by
  let may : Leeway := { leave := False, wait := True, abort := True }
  have permitted : ∀ step ∈ steps, Permits may step := fun step member =>
    { proper := proper step member
      leaves := stays step member
      waits := fun _ => trivial
      aborts := fun _ => trivial }
  exact (coherent_run permitted).truthful_iff id

theorem truthful_while_streaming :
    (Viewer.run {} [(.bare, .toggle "j1" .building), (.bare, .start 1),
      (.bare, .openStream 1 (.ok 5))]).Truthful :=
  (screen_truthful_iff {} [(.bare, .toggle "j1" .building), (.bare, .start 1),
    (.bare, .openStream 1 (.ok 5))] (by decide) (by simp)).mpr (by decide)

/-- A load and a stream that the platform gives up are claimed to be active for ever. -/
theorem aborted_session_is_claimed :
    let loading := Viewer.run {} [(.bare, .toggle "j1" .success),
      (.bare, .answer 1 (.error .cancelled))]
    let streaming := Viewer.run {} [(.bare, .toggle "j1" .building), (.bare, .start 1),
      (.bare, .openStream 1 (.error .cancelled))]
    (loading.state.active = some 1 ∧ loading.state.isLoadingLog ∧ loading.current = none ∧
      ¬ loading.Truthful) ∧
    streaming.activeJob = some "j1" ∧ streaming.state.isFollowing ∧
      (streaming.session? 1).all Session.isOver ∧ ¬ streaming.Truthful := by
  refine ⟨⟨by decide, by decide, by decide, fun truthful => ?_⟩,
    by decide, by decide, by decide, fun truthful => ?_⟩
  · obtain ⟨atHand, -⟩ := (truthful.active 1).mp (by decide)
    exact absurd atHand (by decide)
  · obtain ⟨-, session, found, -, ongoing⟩ := (truthful.active 1).mp (by decide)
    obtain rfl := Option.some.inj found
    simp [Session.isOver] at ongoing

theorem not_isAbandoned_of_answered {config : ViewerConfig} {steps : List (Answers × Action)}
    (proper : ∀ step ∈ steps, step.2.isProper) (answered : ∀ step ∈ steps, ¬ step.2.aborts) :
    (Viewer.run { config } steps).isAbandoned = false := by
  let may : Leeway := { leave := True, wait := True, abort := False }
  have permitted : ∀ step ∈ steps, Permits may step := fun step member =>
    { proper := proper step member
      leaves := fun _ => trivial
      waits := fun _ => trivial
      aborts := answered step member }
  have coherent : Coherent may (Viewer.run { config } steps) := coherent_run permitted
  rw [Bool.eq_false_iff]
  intro abandoned
  obtain ⟨session, found, givenUp⟩ := Option.any_eq_true _ _ |>.mp abandoned
  obtain ⟨uncancelled, finished⟩ :
      session.isCancelled = false ∧ session.stage = .over .cancelled := by
    simpa using givenUp
  have said := (coherent.fits found).2
  rw [finished] at said
  rcases said.2 rfl with cancelled | aborted
  · simp [uncancelled] at cancelled
  · exact aborted

end BuildWatch.Viewer
