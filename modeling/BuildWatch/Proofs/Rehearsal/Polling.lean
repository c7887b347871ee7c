import Mathlib.Data.List.Induction
import BuildWatch.Proofs.Follow.Opening
import BuildWatch.Proofs.Follow.Turns
import BuildWatch.Proofs.Rehearsal.Clock

namespace BuildWatch

open Viewer

/-- The polls of a session: the time of the first one, the answers and how long they take, and how
long the session rests after each of them. -/
structure Polls where
  start : Nat
  rest : Nat
  answers : Nat → Except Fault Snapshot
  delays : Nat → Nat

namespace Polls

variable (polls : Polls)

def asks : Nat → Nat
  | 0 => polls.start
  | poll + 1 => asks poll + polls.delays poll + polls.rest

def lands (poll : Nat) : Nat :=
  polls.asks poll + polls.delays poll

def isFinal (poll : Nat) : Bool :=
  match polls.answers poll with
  | .ok snapshot => snapshot.status.isTerminal
  | .error _ => false

def shown (job : String) (status : Status) (count : Nat) : SelectedLog :=
  match ((List.range count).filterMap fun poll => (polls.answers poll).toOption).getLast? with
  | none => { job, content := "", status }
  | some snapshot => { job, content := snapshot.content, status := snapshot.status }

/-- The calls that belong to a poll: it asks for the log, and unless it is the first one for the
list when the log has come. -/
def calls (session : Session) (poll : Nat) : List (Nat × Call) :=
  (polls.asks poll, .snapshot session.job) ::
    if 0 < poll ∧ session.pollPlan.2 ∧ (polls.answers poll).isOk then
      (listCalls session.challenge).map fun call => (polls.lands poll, call)
    else []

def scrolls (session : Session) (poll : Nat) : List (Nat × Scroll) :=
  match polls.answers poll with
  | .error _ => []
  | .ok snapshot =>
    (scrollCalls session.viewport (some
      { job := session.job, content := snapshot.content, status := snapshot.status })).map
        fun scroll => (polls.lands poll, scroll)

/-- Where a session stands at some time, when it has got some answers. -/
inductive Phase (now : Nat) : Nat → Stage → Prop
  | ready (still : now = polls.start) : Phase now 0 .ready
  | fetching {count : Nat} (ongoing : ∀ poll < count, polls.isFinal poll = false)
      (asked : polls.asks count ≤ now) (awaited : now ≤ polls.lands count) :
      Phase now count (.fetching count)
  | resting {count : Nat} (ongoing : ∀ poll < count + 1, polls.isFinal poll = false)
      (answered : polls.lands count ≤ now) (rests : now ≤ polls.asks (count + 1)) :
      Phase now (count + 1) (.resting (count + 1))
  | finished {count : Nat} (ongoing : ∀ poll < count, polls.isFinal poll = false)
      (ended : polls.isFinal count) : Phase now (count + 1) (.over .completed)

theorem shown_succ_of_fault {job : String} {status : Status} {count : Nat} {fault : Fault}
    (failed : polls.answers count = .error fault) :
    polls.shown job status (count + 1) = polls.shown job status count := by
  simp [shown, List.range_succ, failed, Except.toOption]

theorem shown_succ_of_ok {job : String} {status : Status} {count : Nat} {snapshot : Snapshot}
    (told : polls.answers count = .ok snapshot) : polls.shown job status (count + 1) =
      { job, content := snapshot.content, status := snapshot.status } := by
  simp [shown, List.range_succ, told, Except.toOption]

theorem calls_of_ok {session : Session} {poll : Nat} {snapshot : Snapshot}
    (told : polls.answers poll = .ok snapshot) : polls.calls session poll =
      (polls.asks poll, .snapshot session.job) ::
        (if 0 < poll ∧ session.pollPlan.2 then listCalls session.challenge else []).map
          fun call => (polls.lands poll, call) := by
  by_cases refreshes : 0 < poll ∧ session.pollPlan.2 = true
  · simp [calls, told, refreshes, Except.isOk, Except.toBool]
  · rw [calls, told, if_neg refreshes, if_neg fun both => refreshes ⟨both.1, both.2.1⟩,
      List.map_nil]

end Polls

/-! ## Turns of a session that polls -/

namespace Viewer

/-- A fault leaves no trace on screen, and a log is on screen before the list is asked for. -/
structure HearsPolls (viewer : Viewer) (id : SessionId) (session : Session) : Prop where
  fault : ∀ answers tick fault, session.stage = .fetching tick →
    (viewer.act answers (.answer id (.error fault))).store = viewer.store
  snapshot : ∀ answers tick (snapshot : Snapshot), session.stage = .fetching tick →
    let next := if snapshot.status.isTerminal then none else some (tick + 1)
    ∃ seen : Viewer, seen.calls = viewer.calls ∧
      seen.state.selected = some
        { job := session.job, content := snapshot.content, status := snapshot.status } ∧
      viewer.act answers (.answer id (.ok snapshot)) =
        if 0 < tick ∧ session.pollPlan.2 then seen.refreshFor answers id session next
        else seen.goOn id next

namespace AtHand

variable {viewer : Viewer} {id : SessionId} {session : Session} {tick : Nat} (answers : Answers)
  (atHand : AtHand viewer id session)
include atHand

section
variable (fetching : session.stage = .fetching tick)
include fetching

theorem effect_snapshot (prompt : answers.delaysList = false) (snapshot : Snapshot) :
    let shown : SelectedLog :=
      { job := session.job, content := snapshot.content, status := snapshot.status }
    let stage : Stage :=
      if snapshot.status.isTerminal then .over .completed else .resting (tick + 1)
    Effect viewer (viewer.act answers (.answer id (.ok snapshot))) id { session with stage }
      (if 0 < tick ∧ session.pollPlan.2 then listCalls session.challenge else [])
      (scrollCalls session.viewport (some shown)) (some shown) := by
  intro shown stage
  have ongoing : session.isOver = false := Session.isOver_of_isLive (by rw [fetching]; rfl)
  obtain ⟨later, standing, effect⟩ := atHand.effect_polled ongoing answers tick snapshot
  have goes : later = stage := by
    rcases standing with rfl | ⟨-, delayed, -⟩
    · simp only [stage]
      split <;> rfl
    · simp [prompt] at delayed
  rwa [goes, ← atHand.act_snapshot answers fetching] at effect

end

theorem hearsPolls : viewer.HearsPolls id session := by
  constructor
  · intro answers tick fault fetching
    rw [atHand.act_fault answers fetching]
    rfl
  · intro answers tick snapshot fetching next
    have ongoing : session.isOver = false := Session.isOver_of_isLive (by rw [fetching]; rfl)
    obtain ⟨seen, showing, polled⟩ := atHand.shows_snapshot ongoing answers tick snapshot
    refine ⟨seen, by rw [showing.calls, List.append_nil], showing.selected, ?_⟩
    rw [atHand.act_snapshot answers fetching, polled]

end AtHand

end Viewer

namespace Rehearsal

/-! ## Appointments and answers -/

def nextPoll? (rehearsal : Rehearsal) (id : SessionId) : Option Nat :=
  (rehearsal.viewer.session? id).bind fun session =>
    match session.stage with
    | .ready => some 0
    | .resting tick => (rehearsal.due? id).map fun _ => tick
    | _ => none

/-- When a session polls, the platform has the answer ready that is meant for the poll. -/
def Deals (polls : Polls) (id : SessionId) (job : String) (rehearsal : Rehearsal)
    (happening : Happening) : Prop :=
  happening.session? = some id → ∀ poll ∈ rehearsal.nextPoll? id,
    (rehearsal.platform.fetch job).1 = polls.answers poll ∧
      rehearsal.platform.delay = polls.delays poll

deriving instance DecidableEq for Except

instance (polls : Polls) (id : SessionId) (job : String) (rehearsal : Rehearsal)
    (happening : Happening) : Decidable (Deals polls id job rehearsal happening) :=
  inferInstanceAs (Decidable (_ → _))

def Awaits (rehearsal : Rehearsal) (polls : Polls) (id : SessionId) : Stage → Prop
  | .fetching poll => rehearsal.Booked id (polls.lands poll) (some (polls.answers poll))
  | .resting poll => rehearsal.Booked id (polls.asks poll) none
  | _ => True

structure Polled (polls : Polls) (opened : Rehearsal) (id : SessionId) (session : Session)
    (status : Status) (course : List Happening) (count : Nat) (stage : Stage) : Prop where
  atHand : AtHand (opened.follow course).viewer id { session with stage }
  phase : polls.Phase (opened.follow course).now count stage
  awaits : (opened.follow course).Awaits polls id stage
  selected : (opened.follow course).viewer.state.selected =
    some (polls.shown session.job status count)
  calls : ownTimes Viewer.calls id opened course =
    (List.range count).flatMap (polls.calls session) ++
    if stage = .fetching count then [(polls.asks count, .snapshot session.job)] else []
  scrolls : ownTimes Viewer.scrolls id opened course =
    (List.range count).flatMap (polls.scrolls session)

section
variable {polls : Polls} {opened : Rehearsal} {id : SessionId} {session : Session}
  {status : Status} {course : List Happening} {happening : Happening} {count : Nat}
  {stage : Stage}

theorem Awaits.of_filter {before after : Rehearsal} (awaits : before.Awaits polls id stage)
    (kept : after.agenda.filter (fun entry => entry.session == id) =
      before.agenda.filter fun entry => entry.session == id) : after.Awaits polls id stage := by
  unfold Awaits Booked at *
  rwa [kept]

theorem phase_pass {rehearsal : Rehearsal} {later : Nat}
    (found : rehearsal.viewer.session? id = some { session with stage })
    (uncancelled : session.isCancelled = false)
    (phase : polls.Phase rehearsal.now count stage) (awaits : rehearsal.Awaits polls id stage)
    (allowed : rehearsal.Allows (.pass later)) : polls.Phase later count stage := by
  obtain ⟨forward, waits, next⟩ := allowed
  have waiting := waits id (session?_bounds found).2
  cases phase with
  | ready => simp [turn?_of_ready found rfl] at waiting
  | fetching ongoing asked =>
    have ahead : rehearsal.now < polls.lands count := by
      simpa [turn?_of_fetching found rfl awaits] using waiting
    exact .fetching ongoing (Nat.le_trans asked forward) (awaits.le_due ahead next)
  | @resting answered ongoing landed =>
    have ahead : rehearsal.now < polls.asks (answered + 1) := by
      simpa [turn?_of_resting found rfl uncancelled awaits] using waiting
    exact .resting ongoing (Nat.le_trans landed forward) (awaits.le_due ahead next)
  | finished ongoing ended => exact .finished ongoing ended

namespace Polled

variable (polled : Polled polls opened id session status course count stage)
include polled

theorem concat_of_other (foreign : happening.session? ≠ some id)
    (allowed : (opened.follow course).Allows happening)
    (unstopped : (opened.follow (course ++ [happening])).viewer.isUnstopped id) :
    Polled polls opened id session status (course ++ [happening]) count stage := by
  have atHand := polled.atHand
  have still : AtHand ((opened.follow course).happen happening).viewer id { session with stage } ∧
      ((opened.follow course).happen happening).viewer.state.logView =
        (opened.follow course).viewer.state.logView := by
    rw [follow_concat] at unstopped
    rcases viewer_happen allowed with same | ⟨answers, action, proper, sessionEq, acted⟩
    · rw [same]
      exact ⟨atHand, rfl⟩
    · rw [acted] at unstopped ⊢
      exact atHand.act_of_other proper (sessionEq ▸ foreign) unstopped
  have kept := filter_happen foreign allowed atHand.found
  have selected : ((opened.follow course).happen happening).viewer.state.selected = _ :=
    congrArg LogView.selected still.2
  have phase : polls.Phase ((opened.follow course).happen happening).now count stage := by
    cases happening with
    | turn other =>
      simp only [happen, runTask]
      split
      · exact polled.phase
      · rw [perform_now]
        exact polled.phase
    | request action =>
      rw [happen, perform_now]
      exact polled.phase
    | script => exact polled.phase
    | pass later =>
      exact phase_pass atHand.found atHand.uncancelled polled.phase polled.awaits allowed
  constructor
  · exact follow_concat ▸ still.1
  · exact follow_concat ▸ phase
  · exact follow_concat ▸ polled.awaits.of_filter kept
  · rw [follow_concat, selected]
    exact polled.selected
  · rw [ownTimes_concat_of_other foreign, polled.calls]
  · rw [ownTimes_concat_of_other foreign, polled.scrolls]

theorem concat_of_idle (waits : (opened.follow course).turn? id = none) :
    Polled polls opened id session status (course ++ [.turn id]) count stage := by
  have unmoved : opened.follow (course ++ [.turn id]) = opened.follow course := by
    simp [follow_concat, happen, runTask, waits]
  have quiet {α : Type} (record : Viewer → List α) :
      ownTimes record id opened (course ++ [.turn id]) = ownTimes record id opened course := by
    have grows : record ((opened.follow course).happen (.turn id)).viewer =
        record (opened.follow course).viewer ++ [] := by
      rw [← follow_concat, unmoved, List.append_nil]
    rw [ownTimes_concat rfl grows, List.map_nil, List.append_nil]
  constructor
  · exact unmoved ▸ polled.atHand
  · exact unmoved ▸ polled.phase
  · exact unmoved ▸ polled.awaits
  · exact unmoved ▸ polled.selected
  · rw [quiet, polled.calls]
  · rw [quiet, polled.scrolls]

theorem concat_of_turn {action : Action} {later : Stage} {next : Nat} {calls : List Call}
    {scrolls : List Scroll} {selected : Option SelectedLog}
    (acts : (opened.follow course).turn? id = some action)
    (effect : Effect (opened.follow course).viewer
      ((opened.follow course).viewer.act (opened.follow course).platform.answers action) id
      { session with stage := later } calls scrolls selected)
    (phase : polls.Phase (opened.follow course).now next later)
    (awaits : ((opened.follow course).perform action).Awaits polls id later)
    (shown : selected = some (polls.shown session.job status next))
    (called : ((List.range next).flatMap (polls.calls session) ++
        if later = .fetching next then [(polls.asks next, .snapshot session.job)] else []) =
      ((List.range count).flatMap (polls.calls session) ++
        if stage = .fetching count then [(polls.asks count, .snapshot session.job)] else []) ++
          calls.map fun call => ((opened.follow course).now, call))
    (scrolled : (List.range next).flatMap (polls.scrolls session) =
      (List.range count).flatMap (polls.scrolls session) ++
        scrolls.map fun scroll => ((opened.follow course).now, scroll)) :
    Polled polls opened id session status (course ++ [.turn id]) next later := by
  have own := session?_of_turn? acts
  have performed :
      opened.follow (course ++ [.turn id]) = (opened.follow course).perform action := by
    simp [follow_concat, happen, runTask, acts]
  have viewer : ((opened.follow course).happen (.turn id)).viewer =
      (opened.follow course).viewer.act (opened.follow course).platform.answers action := by
    rw [← follow_concat, performed, perform_viewer]
  have coherent : Coherent .full ((opened.follow course).viewer.act
      (opened.follow course).platform.answers action) :=
    polled.atHand.coherent.act_full (isProper_of_session? own)
  constructor
  · rw [performed, perform_viewer]
    exact polled.atHand.of_effect coherent effect
  · rw [performed, perform_now]
    exact phase
  · rw [performed]
    exact awaits
  · rw [performed, perform_viewer, effect.selected, shown]
  · rw [ownTimes_concat rfl (viewer ▸ effect.calls), polled.calls, called]
  · rw [ownTimes_concat rfl (viewer ▸ effect.scrolls), polled.scrolls, scrolled]

theorem concat_of_asking {action : Action} (asks : action = .start id ∨ action = .wake id)
    (acts : (opened.follow course).turn? id = some action)
    (begins : (opened.follow course).viewer.act (opened.follow course).platform.answers action =
      (opened.follow course).viewer.poll id { session with stage } count)
    (ongoing : ∀ poll < count, polls.isFinal poll = false)
    (punctual : (opened.follow course).now = polls.asks count) (idle : stage ≠ .fetching count)
    (dealt : ((opened.follow course).platform.fetch session.job).1 = polls.answers count ∧
      (opened.follow course).platform.delay = polls.delays count) :
    Polled polls opened id session status (course ++ [.turn id]) count (.fetching count) := by
  have own := session?_of_turn? acts
  have effect := polled.atHand.effect_poll count
  rw [← begins] at effect
  refine polled.concat_of_turn acts effect (.fetching ongoing ?_ ?_) ?_ polled.selected ?_ ?_
  · exact Nat.le_of_eq punctual.symm
  · rw [punctual]
    exact Nat.le_add_right _ _
  · have kept : (opened.follow course).taken action = (opened.follow course).platform := by
      rcases asks with rfl | rfl <;> rfl
    have booked := Booked.of_fetching own effect.found rfl kept
    rwa [dealt.1, dealt.2, punctual] at booked
  · simp [idle, punctual]
  · simp

section
variable (ongoing : ∀ poll < count, polls.isFinal poll = false)
  (acts : (opened.follow course).turn? id = some (.answer id (polls.answers count)))
  (punctual : (opened.follow course).now = polls.lands count)
  (fetching : stage = .fetching count)
  (rest : millisAtLeast session.pollPlan.1 = polls.rest)
include ongoing acts punctual fetching rest

theorem concat_of_fault {fault : Fault} (failed : polls.answers count = .error fault) :
    Polled polls opened id session status (course ++ [.turn id]) (count + 1)
      (.resting (count + 1)) := by
  subst fetching
  have unfinal : polls.isFinal count = false := by rw [Polls.isFinal, failed]
  have effect : Effect (opened.follow course).viewer _ id
      { session with stage := .resting (count + 1) } [] [] _ :=
    .setStage polled.atHand.found (.resting (count + 1))
  rw [failed] at acts
  rw [← polled.atHand.act_fault (opened.follow course).platform.answers rfl fault] at effect
  refine polled.concat_of_turn acts effect (.resting ?_ ?_ ?_) ?_ ?_ ?_ ?_
  · exact Nat.forall_lt_succ_right.mpr ⟨ongoing, unfinal⟩
  · exact Nat.le_of_eq punctual.symm
  · rw [punctual]
    exact Nat.le_add_right _ _
  · have booked := Booked.of_resting rfl effect.found rfl
    change Booked _ _ (_ + millisAtLeast session.pollPlan.1) _ at booked
    rwa [rest, punctual] at booked
  · rw [polled.selected, polls.shown_succ_of_fault failed]
  · simp [List.range_succ, Polls.calls, failed, Except.isOk, Except.toBool]
  · simp [List.range_succ, Polls.scrolls, failed]

theorem concat_of_snapshot {snapshot : Snapshot} (told : polls.answers count = .ok snapshot) :
    Polled polls opened id session status (course ++ [.turn id]) (count + 1)
      (if snapshot.status.isTerminal then .over .completed else .resting (count + 1)) := by
  subst fetching
  rw [told] at acts
  have final : polls.isFinal count = snapshot.status.isTerminal := by rw [Polls.isFinal, told]
  have effect := polled.atHand.effect_snapshot (opened.follow course).platform.answers rfl rfl
    snapshot
  refine polled.concat_of_turn acts effect ?_ ?_ ?_ ?_ ?_
  · cases terminal : snapshot.status.isTerminal with
    | true => exact .finished ongoing (final.trans terminal)
    | false =>
      refine .resting ?_ (Nat.le_of_eq punctual.symm) ?_
      · exact Nat.forall_lt_succ_right.mpr ⟨ongoing, final.trans terminal⟩
      · rw [punctual]
        exact Nat.le_add_right _ _
  · cases terminal : snapshot.status.isTerminal with
    | true => trivial
    | false =>
      have rests := effect.found
      rw [terminal] at rests
      have booked := Booked.of_resting rfl rests rfl
      change Booked _ _ (_ + millisAtLeast session.pollPlan.1) _ at booked
      rwa [rest, punctual] at booked
  · rw [polls.shown_succ_of_ok told]
  · have moved : (if snapshot.status.isTerminal then .over .completed
        else .resting (count + 1)) ≠ Stage.fetching (count + 1) := by
      split <;> simp
    rw [if_neg moved, if_pos rfl, punctual, List.range_succ, List.flatMap_append,
      List.flatMap_singleton, polls.calls_of_ok told, List.append_nil, List.append_assoc]
    rfl
  · simp [List.range_succ, Polls.scrolls, told, punctual]

end

theorem concat_of_own {interval : Nat} {refreshes : Bool}
    (plan : session.plan = some (.pollLoop interval refreshes))
    (rest : millisAtLeast interval = polls.rest)
    (dealt : Deals polls id session.job (opened.follow course) (.turn id)) :
    ∃ next later, Polled polls opened id session status (course ++ [.turn id]) next later := by
  have found := polled.atHand.found
  have uncancelled : session.isCancelled = false := polled.atHand.uncancelled
  have rests : millisAtLeast session.pollPlan.1 = polls.rest := by
    simpa [Session.pollPlan, plan] using rest
  have awaits := polled.awaits
  cases polled.phase with
  | ready still =>
    have starts := turn?_of_ready found rfl
    have first : (opened.follow course).nextPoll? id = some 0 := by simp [nextPoll?, found]
    exact ⟨_, _, polled.concat_of_asking (.inl rfl) starts (polled.atHand.act_start _ rfl plan)
      (by simp) still (by simp) (dealt rfl 0 first)⟩
  | fetching ongoing asked awaited =>
    have acts := turn?_of_fetching found rfl awaits
    by_cases landed : polls.lands count ≤ (opened.follow course).now
    · have punctual := Nat.le_antisymm awaited landed
      rw [if_pos landed] at acts
      cases told : polls.answers count with
      | error fault =>
        exact ⟨_, _, polled.concat_of_fault ongoing acts punctual rfl rests told⟩
      | ok snapshot =>
        exact ⟨_, _, polled.concat_of_snapshot ongoing acts punctual rfl rests told⟩
    · rw [if_neg landed] at acts
      exact ⟨_, _, polled.concat_of_idle acts⟩
  | @resting answered ongoing landed waits =>
    have acts := turn?_of_resting found rfl uncancelled awaits
    by_cases due : polls.asks (answered + 1) ≤ (opened.follow course).now
    · rw [if_pos due] at acts
      have next : (opened.follow course).nextPoll? id = some (answered + 1) := by
        simp [nextPoll?, found, Booked.due?_eq awaits, due]
      exact ⟨_, _, polled.concat_of_asking (.inr rfl) acts (polled.atHand.act_wake _ rfl)
        ongoing (Nat.le_antisymm waits due) (by simp) (dealt rfl _ next)⟩
    · rw [if_neg due] at acts
      exact ⟨_, _, polled.concat_of_idle acts⟩
  | finished ongoing ended =>
    exact ⟨_, _, polled.concat_of_idle (turn?_of_over found rfl)⟩

end Polled

theorem polled_follow {interval : Nat} {refreshes : Bool} (coherent : Coherent .full opened.viewer)
    (begun : ∃ count stage, Polled polls opened id session status [] count stage)
    (plan : session.plan = some (.pollLoop interval refreshes))
    (rest : millisAtLeast interval = polls.rest) (course : List Happening)
    (allowed : Throughout Allows opened course)
    (dealt : Throughout (Deals polls id session.job) opened course)
    (unstopped : (opened.follow course).viewer.isUnstopped id) :
    ∃ count stage, Polled polls opened id session status course count stage := by
  induction course using List.reverseRecOn with
  | nil => exact begun
  | append_singleton course happening ih =>
    obtain ⟨earlier, latest⟩ := throughout_concat.mp allowed
    obtain ⟨dealtBefore, deals⟩ := throughout_concat.mp dealt
    have reached := coherent_follow coherent earlier
    have grows : (opened.follow course).viewer.Grows
        (opened.follow (course ++ [happening])).viewer := by
      rw [follow_concat]
      exact (moves_happen reached latest).grows
    obtain ⟨count, stage, polled⟩ := ih earlier dealtBefore (grows.isUnstopped unstopped)
    by_cases own : happening.session? = some id
    · cases happening with
      | turn other =>
        obtain rfl : other = id := by simpa [Happening.session?] using own
        exact polled.concat_of_own plan rest deals
      | _ => simp [Happening.session?] at own
    · exact ⟨count, stage, polled.concat_of_other own latest unstopped⟩

end

theorem millisAtLeast_millis (millis : Nat) : millisAtLeast (millis * nanosPerMilli) = millis := by
  unfold millisAtLeast nanosPerMilli
  omega

/-- The session that an action opens for a running job polls at once, and again exactly one rest
after each answer, until an answer has a final status. It shows the last answer that was no fault,
scrolls once for each of those, and asks for the list of its challenge with each of them but for the
first poll. -/
theorem poll_session_keeps_time (start : Rehearsal) (opening : Action) (course : List Happening)
    (job : String) (status : Status) (polls : Polls)
    (reached : start.viewer.Reachable) (transport : start.viewer.config.transport = .poll)
    (interval : start.viewer.config.interval = polls.rest * nanosPerMilli)
    (begins : polls.start = start.now)
    (opens : start.viewer.toggles? start.platform.answers opening = some (job, status))
    (hidden : start.viewer.isDisplayed job = false) (live : status.isLive)
    (allowed : Throughout Allows (start.perform opening) course)
    (dealt : Throughout (Deals polls (start.viewer.sessions.length + 1) job)
      (start.perform opening) course)
    (unstopped : ((start.perform opening).follow course).viewer.isUnstopped
      (start.viewer.sessions.length + 1)) :
    let id := start.viewer.sessions.length + 1
    let opened := start.perform opening
    let later := opened.follow course
    let session : Session :=
      { job
        challenge := opened.viewer.challenge
        viewport := start.viewer.viewport
        plan := some (.pollLoop start.viewer.config.interval start.viewer.config.refreshesList)
        stage := .ready }
    ∃ count stage, polls.Phase later.now count stage ∧
      later.viewer.session? id = some { session with stage } ∧
      later.viewer.HearsPolls id { session with stage } ∧
      later.viewer.state.selected = some (polls.shown job status count) ∧
      ownTimes Viewer.calls id opened course = (List.range count).flatMap (polls.calls session) ++
        (if stage = .fetching count then [(polls.asks count, .snapshot job)] else []) ∧
      ownTimes Viewer.scrolls id opened course =
        (List.range count).flatMap (polls.scrolls session) := by
  intro id opened later session
  have planned : Plan.forStatus? start.viewer.config status = session.plan := by
    simp [Plan.forStatus?, live, transport, session]
  have proper : opening.isProper := by
    cases opening <;> first | rfl | simp [toggles?] at opens
  obtain ⟨atHand, empty⟩ := atHand_of_toggles reached.coherent proper opens hidden planned
  rw [← perform_viewer] at atHand empty
  have begun : Polled polls opened id session status [] 0 .ready :=
    { atHand := atHand
      phase := .ready (perform_now.trans begins.symm)
      awaits := trivial
      selected := empty
      calls := rfl
      scrolls := rfl }
  have rest : millisAtLeast start.viewer.config.interval = polls.rest := by
    rw [interval, millisAtLeast_millis]
  obtain ⟨count, stage, polled⟩ :=
    polled_follow atHand.coherent ⟨0, .ready, begun⟩ rfl rest course allowed dealt unstopped
  exact ⟨count, stage, polled.phase, polled.atHand.found, polled.atHand.hearsPolls,
    polled.selected, polled.calls, polled.scrolls⟩

theorem polled_past_a_fault :
    let viewer := Viewer.run { config := .polling (2000 * nanosPerMilli) }
      [(.bare, .setChallenge (some "c1")), (.bare, .setViewport (some 3))]
    let done : Snapshot := { content := "all", status := .success }
    let start : Rehearsal :=
      { viewer
        platform :=
          { snapshots := fun _ => [.error (.transport "down"), .ok done]
            delay := 300 } }
    let opened := start.perform (.toggle "j1" .building)
    let course : List Happening :=
      [.turn 1, .pass 300, .turn 1, .pass 2300, .turn 1, .pass 2600, .turn 1]
    let log : SelectedLog := { job := "j1", content := "all", status := .success }
    (opened.follow course).viewer.state.selected = some log ∧
      ownTimes Viewer.calls 1 opened course =
        [(0, .snapshot "j1"), (2300, .snapshot "j1"), (2600, .list "c1")] ∧
      ownTimes Viewer.scrolls 1 opened course = [(2600, { viewport := 3, shown := some log })] := by
  intro viewer done start opened course log
  let polls : Polls :=
    { start := 0
      rest := 2000
      answers := fun poll => if poll = 0 then .error (.transport "down") else .ok done
      delays := fun _ => 300 }
  have reached : viewer.Reachable := ⟨_, _, by decide, rfl⟩
  obtain ⟨count, stage, phase, found, -, selected, calls, scrolls⟩ :=
    poll_session_keeps_time start (.toggle "j1" .building) course "j1" .building polls reached rfl
      rfl rfl rfl rfl rfl (by decide) (by decide) (by decide)
  have finished : ((opened.follow course).viewer.session? 1).map Session.stage =
      some (.over .completed) := by decide
  have standing := congrArg (Option.map Session.stage) found
  obtain rfl : stage = .over .completed := Option.some.inj (standing.symm.trans finished)
  obtain rfl : count = 2 := by
    cases phase with
    | @finished last ongoing ended =>
      match last with
      | 0 => cases ended
      | 1 => rfl
      | last + 2 => cases ongoing 1 (by omega)
  exact ⟨selected, calls, scrolls⟩

end Rehearsal

end BuildWatch
