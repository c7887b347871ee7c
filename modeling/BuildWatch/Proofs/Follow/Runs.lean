import BuildWatch.Proofs.Follow.Growth

/-!
# Runs

The actions of a run are made of moves, as long as the host itself publishes nothing that only a
session should say. What moves keep therefore holds after every run.

* `Coherent.act_moves`: an action of a coherent viewer is made of moves.
* `Coherent.run_moves`, `coherent_run`: what this says of a whole run.
-/

namespace BuildWatch

def Action.session? : Action → Option SessionId
  | start session | openStream session _ | receive session _ | answer session _ | wake session
  | notice session | listed session _ => some session
  | _ => none

def Action.aborts : Action → Bool
  | openStream _ (.error fault) | receive _ (some (.error fault)) | answer _ (.error fault) =>
    fault.isCancelled
  | _ => false

/-- An event that the host publishes itself is about something else than a log or a session. -/
def Action.isProper : Action → Bool
  | publish event => event.sparesLog
  | _ => true

theorem Action.isProper_of_own {action : Action} {id : SessionId}
    (own : action.session? = some id) : action.isProper := by
  cases action <;> first | rfl | cases own

def Answers.bare : Answers where
  list _ := .ok []
  challenge id := .error (.notFound id)

theorem Session.Fits.planned {may : Leeway} {session : Session} (fits : session.Fits may)
    (live : session.stage.isLive) : session.plan.isSome := by
  obtain ⟨-, said⟩ := fits
  split at said <;> simp_all [Stage.isLive]

namespace Viewer

variable {may : Leeway} {viewer : Viewer} {id : SessionId} {session : Session}
  {answers : Answers}

theorem Alike.session? {after : Viewer} (alike : Alike viewer after) :
    after.session? id = viewer.session? id :=
  session?_congr id alike.sessions

theorem Moves.aside {after : Viewer} (alike : Alike viewer after) : Moves may viewer after :=
  .single (.aside alike)

/-! ## Turns are made of moves -/

section
variable (found : viewer.session? id = some session) (ongoing : session.isOver = false)
  (planned : session.plan.isSome)
include found ongoing planned

theorem Moves.advance {stage : Stage} (live : stage.isLive)
    (immediate : ∀ next, stage ≠ .listing next) :
    Moves may viewer (viewer.setStage id stage) :=
  .single (.advance found ongoing planned live fun next waits => absurd waits (immediate next))

theorem Moves.conclude {outcome : Outcome} (proper : outcome ≠ .superseded)
    (stopped : outcome = .cancelled → session.isCancelled ∨ may.abort) :
    Moves may viewer (viewer.conclude id outcome) :=
  .single (.conclude found ongoing planned proper stopped)

theorem Moves.halt (cancelled : session.isCancelled) :
    Moves may viewer (viewer.conclude id .cancelled) :=
  .conclude found ongoing planned (by simp) fun _ => .inl cancelled

theorem Moves.fail {fault : Fault} (aborts : fault.isCancelled → may.abort) :
    Moves may viewer (viewer.conclude id (outcomeOf fault)) := by
  refine .conclude found ongoing planned (outcomeOf_ne_superseded fault) fun ended => .inr ?_
  cases given : fault.isCancelled with
  | true => exact aborts given
  | false => simp [outcomeOf, given] at ended

theorem Moves.goOn (next : Option Nat) : Moves may viewer (viewer.goOn id next) := by
  cases next with
  | none =>
    change Moves may viewer (viewer.conclude id .completed)
    exact .conclude found ongoing planned (by simp) (by simp)
  | some tick => exact .advance found ongoing planned rfl (by simp)

theorem Moves.refreshFor (waits : answers.delaysList → may.wait) (next : Option Nat) :
    Moves may viewer (viewer.refreshFor answers id session next) := by
  unfold Viewer.refreshFor
  split
  · exact .goOn found ongoing planned next
  · rename_i challenge _
    split
    · exact .goOn found ongoing planned next
    · rename_i uncancelled
      split
      · rename_i delayed
        have asked : (viewer.askList challenge).session? id = some session :=
          (Alike.askList challenge).session?.trans found
        exact (Moves.aside (.askList challenge)).tail
          (.advance asked ongoing planned rfl fun _ _ =>
            ⟨waits delayed, by simpa using uncancelled⟩)
      · have listed : (viewer.loadList answers challenge).1.session? id = some session :=
          (Alike.loadList answers challenge).session?.trans found
        exact (Moves.aside (.loadList answers challenge)).trans
          (Moves.goOn listed ongoing planned next)

theorem Moves.poll (tick : Nat) : Moves may viewer (viewer.poll id session tick) := by
  have asked : (viewer.call (.snapshot session.job)).session? id = some session := found
  exact (Moves.aside (.call (.snapshot session.job))).trans
    (Moves.advance asked ongoing planned rfl (by simp))

theorem Moves.begin : Moves may viewer (viewer.begin id session) := by
  unfold Viewer.begin
  split
  · exact .halt found ongoing planned ‹_›
  · split
    · exact .poll found ongoing planned 0
    · have asked : (viewer.call (.stream session.job)).session? id = some session := found
      exact (Moves.aside (.call (.stream session.job))).trans
        (Moves.advance asked ongoing planned rfl (by simp))

theorem Moves.opened {result : Except Fault StreamId}
    (aborts : ∀ fault, result = .error fault → fault.isCancelled → may.abort) :
    Moves may viewer (viewer.opened id session result) := by
  unfold Viewer.opened
  split
  · exact .halt found ongoing planned ‹_›
  · cases result with
    | ok stream => exact .advance found ongoing planned rfl (by simp)
    | error fault => exact .fail found ongoing planned (aborts fault rfl)

theorem Moves.rested (tick : Nat) : Moves may viewer (viewer.rested id session tick) := by
  unfold Viewer.rested
  split
  · exact .halt found ongoing planned ‹_›
  · exact .poll found ongoing planned tick

theorem Moves.listed (next : Option Nat) (result : Except Fault (List Summary)) :
    Moves may viewer (viewer.listed id next result) := by
  have told : (viewer.listAnswered result).1.session? id = some session :=
    (Alike.listAnswered result).session?.trans found
  exact (Moves.aside (.listAnswered result)).trans (Moves.goOn told ongoing planned next)

end

theorem Alike.scroll_unless (session : Session) (silent : Prop) [Decidable silent] :
    Alike viewer (if silent then viewer else viewer.scroll session) := by
  split
  · exact .refl viewer
  · exact .scroll session

namespace Coherent

variable (coherent : Coherent may viewer) (found : viewer.session? id = some session)
include coherent found

theorem received_eq (running : session.isRunning) (planned : session.plan.isSome) (chunk : Chunk) :
    viewer.received answers id session (some (.ok chunk)) =
      (let told := viewer.dispatch (.chunkReceived id chunk.line chunk.status)
       let scrolled := if chunk.line = "" then told else told.scroll session
       if chunk.isComplete then scrolled.refreshFor answers id session none else scrolled) := by
  have uncancelled := (Session.isRunning_iff.mp running).1
  simp [received, publish?, uncancelled, coherent.accepts_chunk found running planned]

theorem polled_eq (running : session.isRunning) (tick : Nat) (snapshot : Snapshot) :
    viewer.polled answers id session tick (.ok snapshot) =
      (let told := viewer.dispatch (.snapshotReceived id session.job snapshot)
       let scrolled := told.scroll session
       let next := if snapshot.status.isTerminal then none else some (tick + 1)
       if 0 < tick ∧ session.pollPlan.2 then scrolled.refreshFor answers id session next
       else scrolled.goOn id next) := by
  have uncancelled := (Session.isRunning_iff.mp running).1
  simp [polled, publish?, uncancelled, coherent.accepts_snapshot found running]

theorem received_moves {item : StreamItem} (live : session.stage.isLive)
    (waits : answers.delaysList → may.wait)
    (aborts : ∀ fault, item = some (.error fault) → fault.isCancelled → may.abort) :
    Moves may viewer (viewer.received answers id session item) := by
  have ongoing := Session.isOver_of_isLive live
  have planned := (coherent.fits found).planned live
  cases cancelled : session.isCancelled with
  | true =>
    simp only [received, cancelled, if_true]
    exact .halt found ongoing planned cancelled
  | false =>
    have running := Session.isRunning_iff.mpr ⟨cancelled, ongoing⟩
    match item with
    | none =>
      simp only [received, cancelled, Bool.false_eq_true, if_false]
      exact .conclude found ongoing planned (by simp) (by simp)
    | some (.error fault) =>
      simp only [received, cancelled, Bool.false_eq_true, if_false]
      exact .fail found ongoing planned (aborts fault rfl)
    | some (.ok chunk) =>
      rw [coherent.received_eq found running planned]
      dsimp only
      have told : Moves may viewer
          (viewer.dispatch (.chunkReceived id chunk.line chunk.status)) :=
        .single (.chunk found running planned)
      have scrolled : Alike (viewer.dispatch (.chunkReceived id chunk.line chunk.status)) _ :=
        .scroll_unless session (chunk.line = "")
      have kept := scrolled.session?.trans found
      split
      · exact (told.tail (.aside scrolled)).trans
          (Moves.refreshFor kept ongoing planned waits none)
      · exact told.tail (.aside scrolled)

theorem polled_moves (live : session.stage.isLive) (waits : answers.delaysList → may.wait)
    (tick : Nat) (result : Except Fault Snapshot) :
    Moves may viewer (viewer.polled answers id session tick result) := by
  have ongoing := Session.isOver_of_isLive live
  have planned := (coherent.fits found).planned live
  cases cancelled : session.isCancelled with
  | true =>
    simp only [polled, cancelled, if_true]
    exact .halt found ongoing planned cancelled
  | false =>
    have running := Session.isRunning_iff.mpr ⟨cancelled, ongoing⟩
    cases result with
    | error fault =>
      simp only [polled, cancelled, Bool.false_eq_true, if_false]
      exact .advance found ongoing planned rfl (by simp)
    | ok snapshot =>
      rw [coherent.polled_eq found running]
      dsimp only
      have told : Moves may viewer
          (viewer.dispatch (.snapshotReceived id session.job snapshot)) :=
        .single (.snapshot found running planned)
      have scrolled : Alike (viewer.dispatch (.snapshotReceived id session.job snapshot)) _ :=
        .scroll session
      have kept := scrolled.session?.trans found
      split
      · exact (told.tail (.aside scrolled)).trans
          (Moves.refreshFor kept ongoing planned waits _)
      · exact (told.tail (.aside scrolled)).trans (Moves.goOn kept ongoing planned _)

end Coherent

/-! ## What the host asks for is made of moves -/

section
variable {job : String} {status : Status} {sequel : List ViewEvent}
  (spare : ∀ event ∈ sequel, event.sparesLog)
include spare

theorem Moves.toggle : Moves may viewer (viewer.toggle job status sequel).1 := by
  unfold Viewer.toggle
  split
  · rename_i displayed
    exact .tail (.single (.close displayed)) (.aside (.dispatchAll spare))
  · have opened : Moves may viewer (viewer.stop.takeOver job status sequel) :=
      .single (.takeOver spare)
    dsimp only
    split
    · exact opened.tail (.aside (.dispatchAll spare))
    · exact opened.tail (.aside (.dispatchAll spare))
    · exact opened.tail (.aside (.call _))

theorem Moves.openJob (known : Option Status) :
    Moves may viewer (viewer.openJob job known sequel).1 :=
  Moves.toggle spare

end

theorem enter_of_found (viewer : Viewer) (job : String) {challenge : Option String} {id : String}
    {found : Challenge} (given : challenge.filter (· ≠ "") = some id)
    (answered : answers.challenge id = .ok found) :
    ∃ prepared, Alike viewer prepared ∧ viewer.enter answers challenge (some job) =
      (prepared.openJob job none [.challengeLoadFinished]).1 := by
  simp only [enter, given, answered]
  refine ⟨_, ?_, rfl⟩
  have asked : Alike viewer ((viewer.dispatch .challengeLoadStarted).call (.challenge id)) :=
    (Alike.dispatch rfl).trans (.call _)
  exact (asked.trans (.showChallenge answers found id)).trans (.dispatch rfl)

theorem Moves.enter (challenge target : Option String) :
    Moves may viewer (viewer.enter answers challenge target) := by
  have asked (id : String) :
      Alike viewer ((viewer.dispatch .challengeLoadStarted).call (.challenge id)) :=
    (Alike.dispatch rfl).trans (.call _)
  cases given : challenge.filter (· ≠ "") with
  | none =>
    simp only [Viewer.enter, given]
    exact .aside (.dispatch rfl)
  | some id =>
    cases answered : answers.challenge id with
    | error fault =>
      simp only [Viewer.enter, given, answered]
      exact .aside (((asked id).trans (.dispatch rfl)).trans (.dispatch rfl))
    | ok found =>
      cases target with
      | none =>
        simp only [Viewer.enter, given, answered]
        exact .aside (((asked id).trans (.showChallenge answers found id)).trans (.dispatch rfl))
      | some job =>
        obtain ⟨prepared, alike, opens⟩ := viewer.enter_of_found job given answered
        rw [opens]
        exact (Moves.aside alike).trans (Moves.openJob (by simp [ViewEvent.sparesLog]) none)

theorem Moves.cancel : Moves may viewer viewer.cancel := by
  unfold Viewer.cancel
  split
  · exact .refl
  · rename_i slot atHand
    exact .single (.leave (by simp [held?, atHand]))

/-! ## Actions and runs -/

theorem turn_cases {motive : Viewer → Prop} {step : Session → Viewer} (same : motive viewer)
    (taken : ∀ session, viewer.session? id = some session → motive (step session)) :
    motive (viewer.turn id step) := by
  unfold turn
  split
  · exact same
  · rename_i session found
    exact taken session found

structure Permits (may : Leeway) (step : Answers × Action) : Prop where
  proper : step.2.isProper
  leaves : step.2 = .drop → may.leave
  waits : step.1.delaysList → may.wait
  aborts : step.2.aborts → may.abort

theorem Permits.full {step : Answers × Action} (proper : step.2.isProper) :
    Permits .full step where
  proper := proper
  leaves _ := trivial
  waits _ := trivial
  aborts _ := trivial

theorem Moves.act_of_host {action : Action} (foreign : action.session? = none)
    (permitted : Permits may (answers, action)) :
    Moves may viewer (viewer.act answers action) := by
  cases action with
  | toggle job status => exact .toggle (by simp)
  | openJob job known => exact .openJob (by simp) known
  | enter challenge target => exact .enter challenge target
  | refresh => exact .aside (.refresh answers)
  | toggleList => exact .aside (.dispatch rfl)
  | cancel => exact .cancel
  | join => exact .aside .join
  | drop =>
    simp only [act]
    split
    · exact .refl
    · rename_i settled
      exact .single (.drop (permitted.leaves rfl) (by simpa using settled))
  | setChallenge challenge => exact .aside ⟨rfl, rfl, rfl⟩
  | setViewport viewport => exact .aside ⟨rfl, rfl, rfl⟩
  | publish event => exact .aside (.dispatch permitted.proper)
  | _ => cases foreign

namespace Coherent

variable {action : Action} (coherent : Coherent may viewer)
include coherent

theorem ongoing_of_stage {stage : Stage} (found : viewer.session? id = some session)
    (atStage : session.stage = stage) (live : stage.isLive) :
    session.isOver = false ∧ session.plan.isSome := by
  subst atStage
  exact ⟨Session.isOver_of_isLive live, (coherent.fits found).planned live⟩

theorem start_moves : Moves may viewer (viewer.act answers (.start id)) := by
  refine turn_cases .refl fun session found => ?_
  split
  · rename_i ready
    obtain ⟨ongoing, planned⟩ := coherent.ongoing_of_stage found ready rfl
    exact .begin found ongoing planned
  · exact .refl

theorem openStream_moves {result : Except Fault StreamId}
    (permitted : Permits may (answers, .openStream id result)) :
    Moves may viewer (viewer.act answers (.openStream id result)) := by
  refine turn_cases .refl fun session found => ?_
  split
  · rename_i opening
    obtain ⟨ongoing, planned⟩ := coherent.ongoing_of_stage found opening rfl
    refine .opened found ongoing planned ?_
    rintro fault rfl given
    exact permitted.aborts given
  · exact .refl

theorem receive_moves {item : StreamItem} (permitted : Permits may (answers, .receive id item)) :
    Moves may viewer (viewer.act answers (.receive id item)) := by
  refine turn_cases .refl fun session found => ?_
  split
  · rename_i receiving
    refine coherent.received_moves found (receiving ▸ rfl) permitted.waits ?_
    rintro fault rfl given
    exact permitted.aborts given
  · exact .refl

theorem answer_moves {result : Except Fault Snapshot}
    (permitted : Permits may (answers, .answer id result)) :
    Moves may viewer (viewer.act answers (.answer id result)) := by
  refine turn_cases .refl fun session found => ?_
  split
  · rename_i tick fetching
    exact coherent.polled_moves found (fetching ▸ rfl) permitted.waits tick result
  · rename_i loading
    refine .single (.loaded found loading ?_)
    rintro rfl
    exact permitted.aborts rfl
  · exact .refl

theorem wake_moves : Moves may viewer (viewer.act answers (.wake id)) := by
  refine turn_cases .refl fun session found => ?_
  split
  · rename_i tick resting
    obtain ⟨ongoing, planned⟩ := coherent.ongoing_of_stage found resting rfl
    exact .rested found ongoing planned tick
  · exact .refl

theorem notice_moves : Moves may viewer (viewer.act answers (.notice id)) := by
  refine turn_cases .refl fun session found => ?_
  have noticed {stage : Stage} (waiting : session.stage = stage) (live : stage.isLive) :
      Moves may viewer
        (if session.isCancelled then viewer.conclude id .cancelled else viewer) := by
    obtain ⟨ongoing, planned⟩ := coherent.ongoing_of_stage found waiting live
    split
    · exact .halt found ongoing planned ‹_›
    · exact .refl
  split
  · rename_i opening
    exact noticed opening rfl
  · rename_i receiving
    exact noticed receiving rfl
  · rename_i resting
    exact noticed resting rfl
  · exact .refl

theorem listed_moves {result : Except Fault (List Summary)} :
    Moves may viewer (viewer.act answers (.listed id result)) := by
  refine turn_cases .refl fun session found => ?_
  split
  · rename_i next listing
    obtain ⟨ongoing, planned⟩ := coherent.ongoing_of_stage found listing rfl
    exact .listed found ongoing planned next result
  · exact .refl

theorem act_moves (permitted : Permits may (answers, action)) :
    Moves may viewer (viewer.act answers action) := by
  cases action with
  | start => exact coherent.start_moves
  | openStream => exact coherent.openStream_moves permitted
  | receive => exact coherent.receive_moves permitted
  | answer => exact coherent.answer_moves permitted
  | wake => exact coherent.wake_moves
  | notice => exact coherent.notice_moves
  | listed => exact coherent.listed_moves
  | _ => exact .act_of_host rfl permitted

end Coherent

theorem Coherent.act_full {action : Action} (coherent : Coherent .full viewer)
    (proper : action.isProper) : Coherent .full (viewer.act answers action) :=
  (coherent.act_moves (.full proper)).coherent coherent

@[simp] theorem run_nil : viewer.run [] = viewer := rfl

@[simp] theorem run_cons (step : Answers × Action) (rest : List (Answers × Action)) :
    viewer.run (step :: rest) = (viewer.act step.1 step.2).run rest := rfl

theorem run_append (first rest : List (Answers × Action)) :
    viewer.run (first ++ rest) = (viewer.run first).run rest :=
  List.foldl_append

theorem Coherent.run_moves (coherent : Coherent may viewer) (steps : List (Answers × Action))
    (permitted : ∀ step ∈ steps, Permits may step) :
    Moves may viewer (viewer.run steps) := by
  induction steps generalizing viewer with
  | nil => exact .refl
  | cons step rest ih =>
    have first := coherent.act_moves (permitted step List.mem_cons_self)
    have later := ih (first.coherent coherent) fun other member =>
      permitted other (List.mem_cons_of_mem step member)
    exact first.trans later

theorem coherent_run {config : ViewerConfig} {steps : List (Answers × Action)}
    (permitted : ∀ step ∈ steps, Permits may step) :
    Coherent may (Viewer.run { config } steps) :=
  have start := coherent_start config
  (start.run_moves steps permitted).coherent start

def Reachable (viewer : Viewer) : Prop :=
  ∃ config steps, (∀ step ∈ steps, step.2.isProper) ∧ viewer = Viewer.run { config } steps

theorem Reachable.coherent (reached : viewer.Reachable) : Coherent .full viewer := by
  obtain ⟨config, steps, proper, rfl⟩ := reached
  exact coherent_run fun step member => .full (proper step member)

/-- A viewer that may be reached, but for its configuration. -/
def Arises (viewer : Viewer) : Prop :=
  ∃ config, { viewer with config }.Reachable

theorem Arises.coherent (arises : viewer.Arises) : Coherent .full viewer := by
  obtain ⟨config, reached⟩ := arises
  exact reached.coherent.alike ⟨rfl, rfl, rfl⟩

end Viewer

end BuildWatch
