import BuildWatch.Proofs.Follow.ListOnScreen
import BuildWatch.Proofs.Follow.News

namespace BuildWatch

namespace ViewEvent

def isOfLive (job : String) : ViewEvent → Bool
  | listLoadStarted | listLoaded _ | listLoadFinished | chunkReceived .. | sessionFinished _ => true
  | snapshotReceived _ named _ => named == job
  | _ => false

def isCalm : ViewEvent → Bool
  | failed _ | snapshotFailed .. => false
  | _ => true

def isOfLoad : ViewEvent → Bool
  | snapshotReceived .. | snapshotFailed .. | sessionFinished _ => true
  | _ => false

def opens : ViewEvent → Bool
  | sessionOpened .. => true
  | _ => false

theorem isCalm_of_isOfLive {job : String} {event : ViewEvent} (live : event.isOfLive job) :
    event.isCalm := by
  cases event <;> first | rfl | cases live

theorem opens_of_isOfLive {job : String} {event : ViewEvent} (live : event.isOfLive job) :
    event.opens = false := by
  cases event <;> first | rfl | cases live

theorem opens_of_isOfLoad {event : ViewEvent} (loads : event.isOfLoad) : event.opens = false := by
  cases event <;> first | rfl | cases loads

theorem opens_of_sparesLog {event : ViewEvent} (spares : event.sparesLog) :
    event.opens = false := by
  cases event <;> first | rfl | cases spares

end ViewEvent

theorem ViewState.error_reduce {state : ViewState} {event : ViewEvent}
    (calm : event.isCalm) (clear : state.error = none) :
    (state.reduce event).error = none := by
  unfold reduce
  split
  · cases event with
    | failed | snapshotFailed => cases calm
    | sessionOpened _ _ _ live => cases live <;> exact clear
    | _ => first | exact clear | rfl
  · exact clear

theorem ViewState.job_reduce {state : ViewState} {event : ViewEvent} {job : String}
    (live : event.isOfLive job) (shown : state.selected.map SelectedLog.job = some job) :
    (state.reduce event).selected.map SelectedLog.job = some job := by
  unfold reduce
  split
  · cases event with
    | chunkReceived => simpa [apply, SelectedLog.append, Function.comp_def] using shown
    | snapshotReceived id named snapshot =>
      rw [apply_snapshot, Option.map_some, beq_iff_eq.mp live]
    | _ => first | exact shown | cases live
  · exact shown

theorem ViewState.active_reduce {state : ViewState} {event : ViewEvent}
    (unopened : event.opens = false) :
    (state.reduce event).active = none ∨ (state.reduce event).active = state.active := by
  unfold reduce
  split
  · cases event with
    | sessionOpened => cases unopened
    | _ => first | exact .inl rfl | exact .inr rfl
  · exact .inr rfl

namespace Viewer

/-- The screen of one viewer is that of another one after some events of a kind. No session has
been opened meanwhile. -/
structure Told (may : ViewEvent → Bool) (viewer after : Viewer) : Prop where
  events : ∃ events : List ViewEvent, (∀ event ∈ events, may event) ∧
    after.state = events.foldl ViewState.reduce viewer.state
  length : after.sessions.length = viewer.sessions.length

variable {may : ViewEvent → Bool} {viewer after : Viewer} {id : SessionId} {session : Session}
  {answers : Answers} {action : Action}

namespace Told

theorem of_state (same : after.state = viewer.state)
    (length : after.sessions.length = viewer.sessions.length) : Told may viewer after :=
  ⟨⟨[], by simp, same⟩, length⟩

theorem refl (viewer : Viewer) : Told may viewer viewer := .of_state rfl rfl

theorem setStage (stage : Stage) : Told may viewer (viewer.setStage id stage) :=
  .of_state rfl (setStage_sessions_length _ _)

theorem trans {first middle last : Viewer} (left : Told may first middle)
    (right : Told may middle last) : Told may first last := by
  obtain ⟨⟨earlier, allowed, middleEq⟩, lengthEarlier⟩ := left
  obtain ⟨⟨later, allowedLater, lastEq⟩, lengthLater⟩ := right
  refine ⟨⟨earlier ++ later, fun event member => ?_, ?_⟩, lengthLater.trans lengthEarlier⟩
  · exact (List.mem_append.mp member).elim (allowed event) (allowedLater event)
  · rw [lastEq, middleEq, List.foldl_append]

theorem mono {further : ViewEvent → Bool} (told : Told may viewer after)
    (implies : ∀ event, may event → further event) : Told further viewer after := by
  obtain ⟨⟨events, allowed, same⟩, length⟩ := told
  exact ⟨⟨events, fun event member => implies event (allowed event member), same⟩, length⟩

theorem call (call : Call) : Told may viewer (viewer.call call) := .of_state rfl rfl

theorem dispatch {event : ViewEvent} (allowed : may event) :
    Told may viewer (viewer.dispatch event) :=
  ⟨⟨[event], by simpa using allowed, by simp⟩, rfl⟩

theorem dispatchAll {events : List ViewEvent} (allowed : ∀ event ∈ events, may event) :
    Told may viewer (viewer.dispatchAll events) :=
  dispatchAll_induction viewer events
    (fun _ event member told => told.trans (.dispatch (allowed event member))) (.refl viewer)

theorem keeps {motive : ViewState → Prop} (told : Told may viewer after)
    (step : ∀ state event, may event → motive state → motive (state.reduce event))
    (start : motive viewer.state) : motive after.state := by
  obtain ⟨events, allowed, same⟩ := told.events
  rw [same]
  exact List.foldlRecOn events _ start fun state holds event member =>
    step state event (allowed event member) holds

theorem error (told : Told ViewEvent.isCalm viewer after) (clear : viewer.state.error = none) :
    after.state.error = none :=
  told.keeps (motive := fun state => state.error = none)
    (fun _ _ calm clear => ViewState.error_reduce calm clear) clear

theorem job {job : String} (told : Told (ViewEvent.isOfLive job) viewer after)
    (shown : viewer.state.selected.map SelectedLog.job = some job) :
    after.state.selected.map SelectedLog.job = some job :=
  told.keeps (motive := fun state => state.selected.map SelectedLog.job = some job)
    (fun _ _ live shown => ViewState.job_reduce live shown) shown

theorem error_of_live (job : String) (told : Told (ViewEvent.isOfLive job) viewer after)
    (clear : viewer.state.error = none) : after.state.error = none :=
  (told.mono fun _ => ViewEvent.isCalm_of_isOfLive).error clear

theorem inactive (told : Told (!ViewEvent.opens ·) viewer after)
    (other : viewer.state.active ≠ some id) : after.state.active ≠ some id := by
  refine told.keeps (motive := fun state => state.active ≠ some id) ?_ other
  intro state event unopened other
  rcases state.active_reduce (by simpa using unopened) with none | same
  · simp [none]
  · rwa [same]

/-! ## Turns of a single load -/

theorem release : Told may viewer (viewer.release id) :=
  .of_state (release_state viewer id) (by rw [release_sessions])

theorem showLoaded (result : Except Fault Snapshot) :
    Told ViewEvent.isOfLoad viewer (viewer.showLoaded id session result).1 := by
  have published {event : ViewEvent} (loads : event.isOfLoad) : Told ViewEvent.isOfLoad viewer
      (((viewer.publish? session event).getD viewer).dispatch (.sessionFinished id)) := by
    refine Told.trans ?_ (.dispatch rfl)
    unfold publish?
    split
    · exact .dispatch loads
    · exact .refl viewer
  unfold Viewer.showLoaded
  cases result with
  | ok snapshot => exact published rfl
  | error fault =>
    dsimp only
    split
    · exact .refl viewer
    · split <;> exact published rfl

theorem loaded (loads : ∀ event : ViewEvent, event.isOfLoad → may event)
    (allowed : ∀ event ∈ session.sequel, may event) (result : Except Fault Snapshot) :
    Told may viewer (viewer.loaded id session result) := by
  rw [loaded_eq]
  exact ((((Told.showLoaded result).mono loads).trans (.setStage _)).trans .release).trans
    (.dispatchAll allowed)

/-! ## Turns of a live session -/

section
variable {job : String}

theorem scroll : Told may viewer (viewer.scroll session) := by
  unfold Viewer.scroll
  split <;> exact .of_state rfl rfl

theorem scroll_unless (silent : Prop) [Decidable silent] :
    Told may viewer (if silent then viewer else viewer.scroll session) := by
  split
  · exact .refl viewer
  · exact .scroll

theorem conclude (outcome : Outcome) :
    Told (ViewEvent.isOfLive job) viewer (viewer.conclude id outcome) := by
  unfold Viewer.conclude
  dsimp only
  split
  · exact .setStage _
  · exact (Told.setStage _).trans (.dispatch rfl)

theorem goOn (next : Option Nat) :
    Told (ViewEvent.isOfLive job) viewer (viewer.goOn id next) := by
  cases next with
  | some tick => exact .setStage _
  | none => exact .conclude .completed

theorem listAnswered (result : Except Fault (List Summary)) :
    Told (ViewEvent.isOfLive job) viewer (viewer.listAnswered result).1 := by
  cases result <;> exact .dispatch rfl

theorem askList (challenge : String) :
    Told (ViewEvent.isOfLive job) viewer (viewer.askList challenge) :=
  Told.trans (.dispatch rfl) (.call _)

theorem listed (next : Option Nat) (result : Except Fault (List Summary)) :
    Told (ViewEvent.isOfLive job) viewer (viewer.listed id next result) :=
  (Told.listAnswered result).trans (.goOn next)

theorem refreshFor (next : Option Nat) :
    Told (ViewEvent.isOfLive job) viewer (viewer.refreshFor answers id session next) := by
  unfold Viewer.refreshFor
  split
  · exact .goOn next
  · rename_i challenge _
    split
    · exact .goOn next
    · split
      · exact (Told.askList challenge).trans (.setStage _)
      · exact ((Told.askList challenge).trans (.listAnswered _)).trans (.goOn next)

theorem publish? {event : ViewEvent} (allowed : may event)
    (published : viewer.publish? session event = some after) : Told may viewer after := by
  unfold Viewer.publish? at published
  split at published
  · obtain rfl := Option.some.inj published
    exact .dispatch allowed
  · cases published

theorem poll (tick : Nat) : Told may viewer (viewer.poll id session tick) :=
  (Told.call _).trans (.setStage _)

theorem received (item : StreamItem) :
    Told (ViewEvent.isOfLive job) viewer (viewer.received answers id session item) := by
  unfold Viewer.received
  split
  · exact .conclude .cancelled
  · split
    · exact .conclude .ended
    · exact .conclude _
    · split
      · exact .conclude .superseded
      · rename_i shown published
        have told : Told (ViewEvent.isOfLive job) viewer shown := .publish? rfl published
        dsimp only
        split
        · exact (told.trans (.scroll_unless _)).trans (.refreshFor none)
        · exact told.trans (.scroll_unless _)

theorem polled (tick : Nat) (result : Except Fault Snapshot) :
    Told (ViewEvent.isOfLive session.job) viewer
      (viewer.polled answers id session tick result) := by
  unfold Viewer.polled
  split
  · exact .conclude .cancelled
  · split
    · exact .setStage _
    · split
      · exact .conclude .superseded
      · rename_i shown published
        have told : Told (ViewEvent.isOfLive session.job) viewer (shown.scroll session) :=
          (Told.publish? (by simp [ViewEvent.isOfLive]) published).trans .scroll
        dsimp only
        split
        · exact told.trans (.refreshFor _)
        · exact told.trans (.goOn _)

theorem act_of_planned (found : viewer.session? id = some session)
    (own : action.session? = some id) (unloaded : session.stage ≠ .loading) :
    Told (ViewEvent.isOfLive session.job) viewer (viewer.act answers action) := by
  cases action <;> simp only [Action.session?, reduceCtorEq, Option.some.injEq] at own <;>
    obtain rfl := own.symm <;> simp only [act, Viewer.turn, found]
  case start =>
    split
    · unfold begin
      split
      · exact .conclude .cancelled
      · split
        · exact .poll 0
        · exact (Told.call _).trans (.setStage _)
    · exact .refl viewer
  case openStream =>
    split
    · unfold opened
      split
      · exact .conclude .cancelled
      · split
        · exact .setStage _
        · exact .conclude _
    · exact .refl viewer
  case receive item =>
    split
    · exact .received item
    · exact .refl viewer
  case answer result =>
    split
    · exact .polled _ result
    · exact absurd ‹_› unloaded
    · exact .refl viewer
  case wake =>
    split
    · unfold rested
      split
      · exact .conclude .cancelled
      · exact .poll _
    · exact .refl viewer
  case notice =>
    have noticed : Told (ViewEvent.isOfLive session.job) viewer
        (if session.isCancelled then viewer.conclude id .cancelled else viewer) := by
      split
      · exact .conclude .cancelled
      · exact .refl viewer
    split
    · exact noticed
    · exact noticed
    · exact noticed
    · exact .refl viewer
  case listed result =>
    split
    · exact .listed _ result
    · exact .refl viewer

end

end Told

end Viewer

/-- Whether an action of a host neither asks the platform for anything nor complains. -/
def Action.isCalm : Action → Bool
  | .refresh | .enter .. => false
  | .publish event => event.isCalm
  | _ => true

theorem Action.isCalm_of_own {action : Action} {id : SessionId}
    (own : action.session? = some id) : action.isCalm := by
  cases action <;> first | rfl | cases own

namespace Viewer

variable {viewer : Viewer} {id : SessionId} {session : Session} {answers : Answers}
  {action : Action}

/-! ## Messages -/

theorem AtHand.told_of_act (atHand : AtHand viewer id session)
    (belongs : viewer.Belongs fun _ => True) (calm : action.isCalm)
    (unstopped : (viewer.act answers action).isUnstopped id) :
    Told ViewEvent.isCalm viewer (viewer.act answers action) := by
  have stays := atHand.stops_eq_false unstopped
  cases own : action.session? with
  | none =>
    cases action with
    | toggle | openJob | cancel => simp [stops] at stays
    | refresh | enter => cases calm
    | toggleList => exact .dispatch rfl
    | publish event => exact .dispatch calm
    | setChallenge | setViewport => exact .of_state rfl rfl
    | join =>
      have joined : Told ViewEvent.isCalm viewer viewer.join.1 := by
        unfold join
        repeat' split
        all_goals exact .of_state rfl rfl
      exact joined
    | drop =>
      have loading : viewer.isLoading := by simpa [stops] using stays
      rw [act, if_pos loading]
      exact .refl viewer
    | _ => cases own
  | some other =>
    by_cases same : other = id
    · subst same
      have unloaded : session.stage ≠ .loading := by
        intro loading
        have unplanned := (atHand.coherent.fits atHand.found).unplanned loading
        simpa [unplanned] using atHand.planned
      exact (Told.act_of_planned atHand.found own unloaded).mono fun _ =>
        ViewEvent.isCalm_of_isOfLive
    · have older : other ≠ viewer.sessions.length := atHand.newest ▸ same
      have turned : viewer.act answers action = viewer ∨ _ :=
        atHand.coherent.act_of_halted_cases own fun _ found =>
          atHand.coherent.settled found older
      rcases turned with idle | ⟨teller, found, ⟨outcome, acted⟩ | ⟨next, result, acted⟩⟩
      · rw [idle]
        exact .refl viewer
      · rw [acted]
        refine (Told.setStage _).trans (.dispatchAll fun event member => ?_)
        unfold Session.rest at member
        split at member
        · exact (belongs.sessions found).sequel event member ▸ rfl
        · cases member
      · rw [acted]
        have told : Told (ViewEvent.isOfLive teller.job) viewer (viewer.listed other next result) :=
          .listed next result
        exact told.mono fun _ => ViewEvent.isCalm_of_isOfLive

theorem LiveRun.error_of_calm {start : Viewer} {opening : Answers × Action}
    {before later : List (Answers × Action)} {job : String} {status : Status}
    (run : LiveRun start opening (before ++ later) job status)
    (calm : ∀ step ∈ later, step.2.isCalm)
    (clear : ((start.act opening.1 opening.2).run before).state.error = none) :
    ((start.act opening.1 opening.2).run (before ++ later)).state.error = none := by
  induction later using List.reverseRecOn with
  | nil => rwa [List.append_nil]
  | append_singleton later step ih =>
    rw [← List.append_assoc] at run ⊢
    have prior := run.of_append
    have quiet := ih prior fun step member => calm step (by simp [member])
    have belongs := run.arises.belongs.run_of_any (opening :: (before ++ later))
    obtain ⟨stage, -, atHand⟩ := prior.followed.stands
    have unstopped := run.unstopped
    rw [run_concat] at unstopped ⊢
    exact (atHand.told_of_act belongs (calm step (by simp)) unstopped).error quiet

end Viewer

end BuildWatch
