import Mathlib.Data.List.Chain
import BuildWatch.Proofs.Follow.Stopping

namespace BuildWatch

/-- A view state without what a load shows. -/
def ViewState.backdrop (state : ViewState) : ViewState :=
  { state.endSession with selected := none, error := none }

theorem ViewState.afterLoad_eq (state : ViewState) (job : String)
    (result : Except Fault Snapshot) : state.afterLoad job result =
      { state.backdrop with selected := loadedLog job result, error := loadedError job result } :=
  rfl

/-- Whether the host is told of something else at a turn of a session. -/
def Session.owes (session : Session) : Bool :=
  match session.stage with
  | .listing _ => true
  | .loading => !session.sequel.isEmpty
  | _ => false

def Action.toggled? : Action → Option String
  | toggle job _ => some job
  | _ => none

namespace Viewer

def owes (viewer : Viewer) (id : SessionId) : Bool :=
  (viewer.session? id).any Session.owes

def frees (viewer : Viewer) (action : Action) : Bool :=
  action.session?.any fun id => !viewer.owes id

/-- Whether an action toggles a job that is not running, or is the turn of a session that owes the
host nothing. -/
def races (viewer : Viewer) : Action → Bool
  | .toggle _ status => !status.isLive
  | action => viewer.frees action

def toggled (steps : List (Answers × Action)) : List String :=
  steps.filterMap fun step => step.2.toggled?

structure Along (start : Viewer) (count : Nat) (viewer : Viewer) : Prop where
  coherent : Coherent .full viewer
  length : viewer.sessions.length = start.sessions.length + count
  backdrop : viewer.state.backdrop = start.state.backdrop
  owing : ∀ id, viewer.owes id → start.owes id

structure Racing (start : Viewer) (count : Nat) (job : String) (viewer : Viewer) : Prop
    extends Along start count viewer where
  added : 0 < count
  shown : ∀ log, viewer.state.selected = some log → log.job = job
  newest : ∃ session, viewer.newest? = some session ∧ session.job = job ∧ session.plan = none ∧
    session.isCancelled = false

variable {start viewer : Viewer} {count : Nat} {job : String} (answers : Answers) {action : Action}

/-! ## Opening -/

theorem toggle_of_hidden {status : Status} (hidden : viewer.isDisplayed job = false)
    (idle : status.isLive = false) : viewer.act answers (.toggle job status) =
      (viewer.stop.takeOver job status []).call (.snapshot job) := by
  simp [act, toggle, hidden, Plan.forStatus?, idle]

theorem owes_stop (id : SessionId) : viewer.stop.owes id = viewer.owes id := by
  rw [owes, owes, session?_stop, Option.any_map]
  congr 1
  funext session
  split <;> rfl

theorem Along.toggle {status : Status} (along : Along start count viewer)
    (hidden : viewer.isDisplayed job = false) (idle : status.isLive = false) :
    Racing start (count + 1) job (viewer.act answers (.toggle job status)) ∧
      ∃ session, (viewer.act answers (.toggle job status)).newest? = some session ∧
        session.stage = .loading := by
  have coherent : Coherent .full (viewer.act answers (.toggle job status)) :=
    (along.coherent.act_moves (.full rfl)).coherent along.coherent
  rw [toggle_of_hidden answers hidden idle] at coherent ⊢
  generalize afterEq :
    (viewer.stop.takeOver job status []).call (.snapshot job) = after at coherent ⊢
  have unplanned : Plan.forStatus? viewer.config status = none := by simp [Plan.forStatus?, idle]
  have state : after.state = viewer.state.apply
      (.sessionOpened (viewer.sessions.length + 1) job status false) := by
    rw [← afterEq]
    change (viewer.stop.takeOver job status []).state = _
    rw [takeOver_state, stop_state, stop_sessions_length, stop_config, unplanned,
      ViewState.reduce_of_accepts rfl]
    rfl
  have lookup (id : SessionId) : after.session? id = if id = viewer.sessions.length + 1
      then some (viewer.stop.newcomer job status []) else viewer.stop.session? id := by
    rw [← afterEq, ← stop_sessions_length]
    exact session?_takeOver _ _ _ _ _
  have length : after.sessions.length = viewer.sessions.length + 1 := by
    rw [← afterEq]
    simp [call]
  have newest : after.newest? = some (viewer.stop.newcomer job status []) := by
    rw [newest?, length, lookup, if_pos rfl]
  have loading : (viewer.stop.newcomer job status []).stage = .loading := by
    simp [newcomer, unplanned]
  refine ⟨⟨⟨coherent, ?_, ?_, ?_⟩, Nat.succ_pos count, ?_, _, newest, rfl, ?_, rfl⟩,
    _, newest, loading⟩
  · rw [length, along.length, Nat.add_assoc]
  · rw [state, ← along.backdrop]
    rfl
  · intro id owing
    apply along.owing
    rw [owes, lookup] at owing
    split at owing
    · simp [Session.owes, newcomer, unplanned] at owing
    · rwa [← owes_stop, owes]
  · intro log shown
    rw [state] at shown
    simp [ViewState.apply] at shown
  · simp [newcomer, unplanned]

theorem Racing.hidden {other : String} (opened : Racing start count job viewer)
    (differs : other ≠ job) : viewer.isDisplayed other = false := by
  rw [Bool.eq_false_iff]
  intro displayed
  unfold isDisplayed at displayed
  split at displayed
  · rename_i log selected
    exact differs ((beq_iff_eq.mp displayed).symm.trans (opened.shown log selected))
  · obtain ⟨id, held, active⟩ := activeJob_eq_some.mp (beq_iff_eq.mp displayed)
    obtain ⟨session, newestEq, jobEq, unplanned, uncancelled⟩ := opened.newest
    have front := opened.coherent.front
    rw [newestEq, held] at front
    generalize atHand : some (id, other) = holding at front
    cases front with
    | running => simp_all
    | ended => simp [unplanned] at atHand
    | stopped cancelled => simp [uncancelled] at cancelled

/-! ## Turns that nothing is seen of -/

structure Unmoved (before after : Viewer) : Prop where
  state : after.state = before.state
  held : after.held? = before.held?
  length : after.sessions.length = before.sessions.length
  newest : after.newest? = before.newest?

theorem Unmoved.refl (viewer : Viewer) : Unmoved viewer viewer := ⟨rfl, rfl, rfl, rfl⟩

theorem Unmoved.trans {first middle last : Viewer} (left : Unmoved first middle)
    (right : Unmoved middle last) : Unmoved first last :=
  ⟨right.state.trans left.state, right.held.trans left.held, right.length.trans left.length,
    right.newest.trans left.newest⟩

theorem Unmoved.setStage {id : SessionId} {stage : Stage} (older : id ≠ viewer.sessions.length) :
    Unmoved viewer (viewer.setStage id stage) := by
  refine ⟨rfl, rfl, setStage_sessions_length _ _, ?_⟩
  rw [newest?, setStage_sessions_length, session?_setStage, newest?]
  simp [older.symm]

theorem owes_setStage_over {id other : SessionId} {outcome : Outcome}
    (owing : (viewer.setStage id (.over outcome)).owes other) : viewer.owes other := by
  rw [owes, session?_setStage, Option.any_map] at owing
  obtain ⟨session, found, owing⟩ := Option.any_eq_true _ _ |>.mp owing
  refine Option.any_eq_true _ _ |>.mpr ⟨session, found, ?_⟩
  split at owing
  · simp [Session.owes] at owing
  · exact owing

/-- An action is the answer that the newest load waits for. -/
def Awaits (viewer : Viewer) (action : Action) : Prop :=
  ∃ session result, viewer.newest? = some session ∧ session.isOver = false ∧
    action = .answer viewer.sessions.length result

theorem Unmoved.awaits_iff {after : Viewer} (unmoved : Unmoved viewer after) :
    after.Awaits action ↔ viewer.Awaits action := by
  rw [Awaits, Awaits, unmoved.newest, unmoved.length]

theorem frees_iff : start.frees action ↔
    ∃ id, action.session? = some id ∧ start.owes id = false := by
  simp [frees, Option.any_eq_true]

theorem act_answer {session : Session} (newestEq : viewer.newest? = some session)
    (loading : session.stage = .loading) (result : Except Fault Snapshot) :
    viewer.act answers (.answer viewer.sessions.length result) =
      viewer.loaded viewer.sessions.length session result := by
  rw [newest?] at newestEq
  simp only [act, Viewer.turn, newestEq, loading]

theorem newest?_loaded {session : Session} (newestEq : viewer.newest? = some session)
    (result : Except Fault Snapshot) :
    (viewer.loaded viewer.sessions.length session result).newest? = some { session with
      stage := .over (viewer.showLoaded viewer.sessions.length session result).2 } := by
  have sessions := viewer.loaded_sessions viewer.sessions.length session result
  rw [newest?, sessions, setStage_sessions_length, session?_congr _ sessions,
    session?_setStage_self newestEq]

namespace Racing

variable (opened : Racing start count job viewer)
include opened

theorem isOver_or_loading {session : Session} (newestEq : viewer.newest? = some session) :
    session.isOver ∨ session.stage = .loading := by
  obtain ⟨same, found, -, unplanned, -⟩ := opened.newest
  obtain rfl : session = same := Option.some.inj (newestEq.symm.trans found)
  have said := (opened.coherent.fits newestEq).2
  unfold Session.isOver
  cases stageEq : session.stage <;> simp_all

theorem act_of_quiet (frees : start.frees action) (quiet : ¬ viewer.Awaits action) :
    viewer.act answers action = viewer ∨ ∃ id outcome, id ≠ viewer.sessions.length ∧
      viewer.act answers action = viewer.setStage id (.over outcome) := by
  obtain ⟨id, own, free⟩ := frees_iff.mp frees
  have settled : viewer.owes id = false := by
    rw [Bool.eq_false_iff]
    exact fun owing => by simp [opened.owing id owing] at free
  cases found : viewer.session? id with
  | none => exact .inl (act_of_unknown found own)
  | some session =>
    have kept : session.owes = false := by simpa [owes, found] using settled
    by_cases newest : id = viewer.sessions.length
    · subst newest
      rcases opened.isOver_or_loading found with finished | loading
      · exact .inl (act_of_over found own finished)
      · refine .inl ((act_of_loading found own loading).resolve_right ?_)
        rintro ⟨result, rfl, -⟩
        exact quiet ⟨session, result, found, Session.isOver_of_loading loading, rfl⟩
    · have halted := opened.coherent.settled found newest
      have prompt (next : Option Nat) : session.stage ≠ .listing next := by
        intro listing
        simp [Session.owes, listing] at kept
      have silent : session.rest = [] := by
        unfold Session.rest
        split
        · rename_i loading
          simpa [Session.owes, loading] using kept
        · rfl
      refine (opened.coherent.act_of_halted found own halted prompt).imp_right ?_
      rintro ⟨outcome, acted⟩
      rw [silent] at acted
      exact ⟨id, outcome, newest, acted⟩

theorem turn_of_quiet (frees : start.frees action) (quiet : ¬ viewer.Awaits action) :
    Unmoved viewer (viewer.act answers action) ∧
      Racing start count job (viewer.act answers action) := by
  obtain ⟨id, own, -⟩ := frees_iff.mp frees
  have proper : action.isProper := by cases action <;> first | rfl | simp [Action.session?] at own
  have coherent : Coherent .full (viewer.act answers action) :=
    (opened.coherent.act_moves (.full proper)).coherent opened.coherent
  rcases opened.act_of_quiet answers frees quiet with same | ⟨id, outcome, older, acted⟩
  · rw [same]
    exact ⟨.refl viewer, opened⟩
  · rw [acted] at coherent ⊢
    have unmoved : Unmoved viewer (viewer.setStage id (.over outcome)) := .setStage older
    refine ⟨unmoved, ⟨⟨coherent, ?_, opened.backdrop, ?_⟩, opened.added, opened.shown, ?_⟩⟩
    · rw [unmoved.length, opened.length]
    · exact fun other owing => opened.owing other (owes_setStage_over owing)
    · rw [unmoved.newest]
      exact opened.newest

theorem sequel_of_loading {session : Session} (newestEq : viewer.newest? = some session)
    (loading : session.stage = .loading) : session.sequel = [] := by
  have beyond : start.session? viewer.sessions.length = none := by
    cases found : start.session? viewer.sessions.length with
    | none => rfl
    | some older =>
      have bound : viewer.sessions.length ≤ start.sessions.length := (session?_bounds found).2
      have length := opened.length
      have added := opened.added
      omega
  have settled : viewer.owes viewer.sessions.length = false := by
    rw [Bool.eq_false_iff]
    intro owing
    have owed := opened.owing _ owing
    simp [owes, beyond] at owed
  rw [newest?] at newestEq
  simpa [owes, newestEq, Session.owes, loading] using settled

theorem state_of_answer {session : Session} {result : Except Fault Snapshot}
    (newestEq : viewer.newest? = some session) (loading : session.stage = .loading)
    (heard : result ≠ .error .cancelled) :
    (viewer.loaded viewer.sessions.length session result).state =
      viewer.state.afterLoad job result := by
  obtain ⟨same, found, jobEq, -, uncancelled⟩ := opened.newest
  obtain rfl : session = same := Option.some.inj (newestEq.symm.trans found)
  have running := Session.isRunning_of_loading loading uncancelled
  obtain ⟨shows, -⟩ := opened.coherent.front_of_isRunning newestEq running
  rw [loaded_state _ _ _ (opened.sequel_of_loading newestEq loading), ← jobEq]
  exact (viewer.showLoaded_of_active _ uncancelled shows.active heard).1

theorem held?_of_answer {session : Session} (newestEq : viewer.newest? = some session)
    (loading : session.stage = .loading) (result : Except Fault Snapshot) :
    (viewer.loaded viewer.sessions.length session result).held? = none := by
  obtain ⟨same, found, -, -, uncancelled⟩ := opened.newest
  obtain rfl : session = same := Option.some.inj (newestEq.symm.trans found)
  have running := Session.isRunning_of_loading loading uncancelled
  obtain ⟨-, held⟩ := opened.coherent.front_of_isRunning newestEq running
  refine loaded_held? _ _ _ (opened.sequel_of_loading newestEq loading) ?_
  rw [held, Option.map_some]

theorem answer {session : Session} (newestEq : viewer.newest? = some session)
    (loading : session.stage = .loading) (result : Except Fault Snapshot) :
    Racing start count job (viewer.loaded viewer.sessions.length session result) := by
  obtain ⟨same, found, jobEq, unplanned, uncancelled⟩ := opened.newest
  obtain rfl : session = same := Option.some.inj (newestEq.symm.trans found)
  have coherent : Coherent .full (viewer.loaded viewer.sessions.length session result) :=
    opened.coherent.loaded newestEq loading fun _ => trivial
  have sessions := viewer.loaded_sessions viewer.sessions.length session result
  have view : (viewer.loaded viewer.sessions.length session result).state = viewer.state ∨
      (viewer.loaded viewer.sessions.length session result).state =
        viewer.state.afterLoad job result := by
    by_cases givenUp : result = .error .cancelled
    · rw [loaded_state _ _ _ (opened.sequel_of_loading newestEq loading), givenUp,
        showLoaded_of_given_up]
      exact .inl rfl
    · exact .inr (opened.state_of_answer newestEq loading givenUp)
  refine ⟨⟨coherent, ?_, ?_, ?_⟩, opened.added, ?_, _, newest?_loaded newestEq result, jobEq,
    unplanned, uncancelled⟩
  · rw [sessions, setStage_sessions_length, opened.length]
  · rw [← opened.backdrop]
    rcases view with same | shown
    · rw [same]
    · rw [shown]
      rfl
  · intro other owing
    apply opened.owing other
    rw [owes, session?_congr _ sessions] at owing
    exact owes_setStage_over owing
  · intro log selected
    rcases view with same | shown
    · exact opened.shown log (same ▸ selected)
    · rw [shown] at selected
      exact job_of_loadedLog selected

theorem turn (frees : start.frees action) : Racing start count job (viewer.act answers action) := by
  by_cases awaits : viewer.Awaits action
  · obtain ⟨session, result, newestEq, ongoing, rfl⟩ := awaits
    have loading := (opened.isOver_or_loading newestEq).resolve_left (by simp [ongoing])
    rw [act_answer answers newestEq loading]
    exact opened.answer newestEq loading result
  · exact (opened.turn_of_quiet answers frees awaits).2

end Racing

/-! ## Runs -/

theorem Racing.run_of_quiet {steps : List (Answers × Action)}
    (opened : Racing start count job viewer) (frees : ∀ step ∈ steps, start.frees step.2)
    (quiet : ∀ step ∈ steps, ¬ viewer.Awaits step.2) :
    Unmoved viewer (viewer.run steps) ∧ Racing start count job (viewer.run steps) := by
  induction steps generalizing viewer with
  | nil => exact ⟨.refl viewer, opened⟩
  | cons step rest ih =>
    obtain ⟨unmoved, next⟩ := opened.turn_of_quiet step.1
      (frees step List.mem_cons_self) (quiet step List.mem_cons_self)
    obtain ⟨later, last⟩ :=
      ih next (fun other member => frees other (List.mem_cons_of_mem step member))
        fun other member awaits =>
          quiet other (List.mem_cons_of_mem step member) (unmoved.awaits_iff.mp awaits)
    exact ⟨unmoved.trans later, last⟩

theorem races_iff : start.races action ↔
    (∃ job status, action = .toggle job status ∧ status.isLive = false) ∨
      action.toggled? = none ∧ start.frees action := by
  cases action with
  | toggle job status => simp [races, Action.toggled?]
  | _ => simp [races, Action.toggled?]

theorem Racing.run_toggle {last : String} {status : Status} (opened : Racing start count job viewer)
    (steps : List (Answers × Action)) (races : ∀ step ∈ steps, start.races step.2)
    (alternates : (job :: (toggled steps ++ [last])).IsChain (· ≠ ·))
    (idle : status.isLive = false) :
    Racing start (count + (toggled steps).length + 1) last
        ((viewer.run steps).act answers (.toggle last status)) ∧
      ∃ session, ((viewer.run steps).act answers (.toggle last status)).newest? = some session ∧
        session.stage = .loading := by
  induction steps generalizing viewer count job with
  | nil =>
    have differs : job ≠ last := by simpa [toggled] using alternates
    exact opened.toAlong.toggle answers (opened.hidden differs.symm) idle
  | cons step rest ih =>
    have later : ∀ other ∈ rest, start.races other.2 :=
      fun other member => races other (List.mem_cons_of_mem step member)
    rcases races_iff.mp (races step List.mem_cons_self) with
      ⟨next, known, acts, waits⟩ | ⟨skips, frees⟩
    · have toggledEq : toggled (step :: rest) = next :: toggled rest := by
        simp [toggled, acts, Action.toggled?]
      rw [toggledEq, List.cons_append, List.isChain_cons_cons] at alternates
      have opens := (opened.toAlong.toggle step.1 (opened.hidden alternates.1.symm) waits).1
      have ends := ih opens later alternates.2
      rw [toggledEq, run_cons, acts, List.length_cons]
      rwa [Nat.add_right_comm count 1] at ends
    · have toggledEq : toggled (step :: rest) = toggled rest := by
        simp [toggled, skips]
      rw [toggledEq] at alternates ⊢
      exact ih (opened.turn step.1 frees) later alternates

theorem Racing.run_answer {session : Session} {result : Except Fault Snapshot}
    (opened : Racing start count job viewer) (between after : List (Answers × Action))
    (newestEq : viewer.newest? = some session) (loading : session.stage = .loading)
    (before : ∀ step ∈ between, start.frees step.2)
    (awaited : ∀ step ∈ between, ∀ other, step.2 ≠ .answer (start.sessions.length + count) other)
    (late : ∀ step ∈ after, start.frees step.2) (heard : result ≠ .error .cancelled) :
    let final := ((viewer.run between).act answers
      (.answer (start.sessions.length + count) result)).run after
    final.state = start.state.afterLoad job result ∧ final.current = none := by
  intro final
  have patient : ∀ step ∈ between, ¬ viewer.Awaits step.2 := by
    rintro step member ⟨-, other, -, -, same⟩
    rw [opened.length] at same
    exact awaited step member other same
  obtain ⟨unmoved, waiting⟩ := opened.run_of_quiet before patient
  rw [← unmoved.newest] at newestEq
  have acted := act_answer answers newestEq loading result
  rw [waiting.length] at acted
  have done := waiting.answer newestEq loading result
  have laterEq := newest?_loaded newestEq result
  have state := waiting.state_of_answer newestEq loading heard
  have free := waiting.held?_of_answer newestEq loading result
  rw [waiting.length] at done laterEq state free
  rw [← acted] at done laterEq state free
  -- The newest session is over, so no answer is waited for any more.
  obtain ⟨still, -⟩ := done.run_of_quiet late fun step _ => by
    rintro ⟨newest, -, found, ongoing, -⟩
    obtain rfl := Option.some.inj (laterEq.symm.trans found)
    simp [Session.isOver] at ongoing
  constructor
  · rw [still.state, state, ViewState.afterLoad_eq, waiting.backdrop, ← ViewState.afterLoad_eq]
  · simpa [held?] using still.held.trans free

/-- Jobs that are not running are toggled, each another one than the one before. In between,
sessions have their turns. -/
structure Race (start : Viewer) (steps : List (Answers × Action)) : Prop where
  begins : ∀ step ∈ steps.head?, step.2.toggled?.isSome
  races : ∀ step ∈ steps, start.races step.2
  alternates : (toggled steps).IsChain (· ≠ ·)
  hidden : ∀ job ∈ (toggled steps).head?, start.isDisplayed job = false

theorem Reachable.along (reached : start.Reachable) : Along start 0 start :=
  ⟨reached.coherent, rfl, rfl, fun _ owing => owing⟩

theorem Race.racing {steps : List (Answers × Action)} {asked : Answers} {status : Status}
    (along : Along start 0 start) (race : Race start (steps ++ [(asked, .toggle job status)])) :
    Racing start ((toggled steps).length + 1) job
        ((start.run steps).act asked (.toggle job status)) ∧
      ∃ session, ((start.run steps).act asked (.toggle job status)).newest? = some session ∧
        session.stage = .loading := by
  obtain ⟨begins, races, alternates, hidden⟩ := race
  have toggledEq : toggled (steps ++ [(asked, .toggle job status)]) = toggled steps ++ [job] := by
    simp [toggled, Action.toggled?]
  have idle : status.isLive = false := by
    simpa [Viewer.races] using races (asked, .toggle job status) (by simp)
  rw [toggledEq] at alternates hidden
  cases steps with
  | nil => exact along.toggle asked (hidden job rfl) idle
  | cons first rest =>
    rcases races_iff.mp (races first (by simp)) with ⟨next, known, acts, waits⟩ | ⟨skips, -⟩
    · have firstEq : toggled (first :: rest) = next :: toggled rest := by
        simp [toggled, acts, Action.toggled?]
      rw [firstEq] at alternates hidden ⊢
      have opens := (along.toggle first.1 (hidden next rfl) waits).1
      have ends := opens.run_toggle asked rest
        (fun step member => races step (by simp [member])) alternates idle
      rw [run_cons, acts, List.length_cons]
      rwa [Nat.zero_add, Nat.add_comm 1] at ends
    · have toggles := begins first (by simp)
      simp [skips] at toggles

/-- Jobs that are not running are opened one after another, without waiting for their logs. However
the answers come in, as soon as the last job has its log the state is the same for good as if only
the last job had been opened. -/
theorem last_open_wins (start : Viewer) (opens between after : List (Answers × Action))
    (asked answered : Answers) (job : String) (status : Status) (result : Except Fault Snapshot)
    (reached : start.Reachable)
    (race : Race start (opens ++ [(asked, .toggle job status)]))
    (fresh : start.isDisplayed job = false)
    (turns : ∀ step ∈ between ++ after, start.frees step.2)
    (awaited : ∀ step ∈ between, ∀ other,
      step.2 ≠ .answer (start.sessions.length + ((toggled opens).length + 1)) other)
    (heard : result ≠ .error .cancelled) :
    let last := start.sessions.length + ((toggled opens).length + 1)
    let viewer := start.run (opens ++ [(asked, .toggle job status)] ++ between ++
      [(answered, .answer last result)] ++ after)
    let alone := (start.act asked (.toggle job status)).act answered
      (.answer (start.sessions.length + 1) result)
    viewer.state = alone.state ∧ viewer.state.selected = loadedLog job result ∧
      viewer.state.error = loadedError job result ∧ viewer.state.active = none ∧
      viewer.state.isFollowing = false ∧ viewer.state.isLoadingLog = false ∧
      viewer.current = none := by
  have along := reached.along
  have idle : status.isLive = false := by
    simpa [Viewer.races] using race.races (asked, .toggle job status) (by simp)
  intro last viewer alone
  obtain ⟨opened, session, newestEq, loading⟩ := race.racing along
  have ran : viewer.state = start.state.afterLoad job result ∧ viewer.current = none := by
    have ends := opened.run_answer answered between after newestEq loading
      (fun step member => turns step (List.mem_append_left after member)) awaited
      (fun step member => turns step (List.mem_append_right between member)) heard
    simpa only [viewer, run_append, run_cons, run_nil] using ends
  obtain ⟨single, only, onlyEq, waits⟩ := along.toggle asked fresh idle
  have solo : alone.state = start.state.afterLoad job result ∧ alone.current = none := by
    have ends := single.run_answer answered [] [] onlyEq waits (by simp)
      (by simp) (by simp) heard
    simpa only [alone, run_nil, Nat.zero_add] using ends
  rw [ran.1, solo.1]
  exact ⟨rfl, rfl, rfl, rfl, rfl, rfl, ran.2⟩

theorem reopened_job_wins :
    let viewer := Viewer.run {} ([(.bare, .toggle "a" .success), (.bare, .toggle "b" .failed),
      (.bare, .answer 2 (.ok { content := "b", status := .failed }))] ++
      [(.bare, .toggle "a" .success)] ++ [(.bare, .answer 1 (.error .cancelled))] ++
      [(.bare, .answer 3 (.ok { content := "a", status := .success }))] ++ [])
    let alone := (Viewer.act {} .bare (.toggle "a" .success)).act .bare
      (.answer 1 (.ok { content := "a", status := .success }))
    viewer.state = alone.state ∧
      viewer.state.selected = some { job := "a", content := "a", status := .success } ∧
      viewer.state.error = none ∧ viewer.state.active = none ∧
      viewer.state.isFollowing = false ∧ viewer.state.isLoadingLog = false ∧
      viewer.current = none :=
  last_open_wins {} [(.bare, .toggle "a" .success), (.bare, .toggle "b" .failed),
    (.bare, .answer 2 (.ok { content := "b", status := .failed }))]
    [(.bare, .answer 1 (.error .cancelled))] [] .bare .bare "a" .success
    (.ok { content := "a", status := .success }) ⟨{}, [], by simp, rfl⟩
    { begins := by simp [Action.toggled?]
      races := by decide
      alternates := by simp [toggled, Action.toggled?]
      hidden := by decide }
    (by decide) (by decide) (by simp [toggled, Action.toggled?]) (by simp)

end Viewer

end BuildWatch
