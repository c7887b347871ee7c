import BuildWatch.Proofs.Follow.Ledger
import BuildWatch.Proofs.Follow.Screen
import BuildWatch.Proofs.Follow.Stopping

namespace BuildWatch

theorem Session.Fits.rest_spares {may : Leeway} {session : Session} (fits : session.Fits may) :
    ∀ event ∈ session.rest, event.sparesLog := by
  unfold rest
  split
  · exact fits.1
  · simp

namespace Viewer

variable {may : Leeway} {viewer after : Viewer} {id other : SessionId} {session : Session}
  {answers : Answers} {action : Action}

/-! ## What the host asks for without a stop -/

theorem Alike.enter {challenge target : Option String}
    (stays : viewer.stops answers (.enter challenge target) = false) :
    Alike viewer (viewer.enter answers challenge target) := by
  have asked (name : String) :
      Alike viewer ((viewer.dispatch .challengeLoadStarted).call (.challenge name)) :=
    (Alike.dispatch rfl).trans (.call _)
  cases given : challenge.filter (· ≠ "") with
  | none =>
    simp only [Viewer.enter, given]
    exact .dispatch rfl
  | some name =>
    cases answered : answers.challenge name with
    | error fault =>
      simp only [Viewer.enter, given, answered]
      exact ((asked name).trans (.dispatch rfl)).trans (.dispatch rfl)
    | ok found =>
      have untargeted : target = none := by
        rw [stops, given] at stays
        simpa [answered, Except.isOk, Except.toBool] using stays
      simp only [Viewer.enter, given, answered, untargeted]
      exact ((asked name).trans (.showChallenge answers found name)).trans (.dispatch rfl)

theorem Alike.act_of_host (host : action.session? = none) (proper : action.isProper)
    (stays : viewer.stops answers action = false) : Alike viewer (viewer.act answers action) := by
  cases action with
  | toggle | openJob | cancel => simp [stops] at stays
  | enter challenge target => exact .enter stays
  | refresh => exact .refresh answers
  | toggleList => exact .dispatch rfl
  | join => exact .join
  | drop =>
    have loading : viewer.isLoading = true := by simpa [stops] using stays
    rw [act, if_pos loading]
    exact .refl viewer
  | setChallenge | setViewport => exact ⟨rfl, rfl, rfl⟩
  | publish event => exact .dispatch proper
  | _ => simp [Action.session?] at host

/-! ## Turns of sessions that do not run any more -/

theorem goOn_of_inactive (inactive : viewer.state.active ≠ some other) (next : Option Nat) :
    viewer.goOn other next = viewer.setStage other (stageAfter next) := by
  cases next with
  | some tick => rfl
  | none =>
    have silent : (viewer.setStage other (.over .completed)).state.active ≠ some other := inactive
    rw [goOn, conclude]
    simp only [reduceCtorEq, if_false]
    exact dispatch_of_not_accepts _ _ (by simpa [ViewState.accepts_finished] using silent)

structure Apart (other : SessionId) (before after : Viewer) : Prop where
  sessions : ∀ id, id ≠ other → after.session? id = before.session? id
  length : after.sessions.length = before.sessions.length
  held : after.held? = before.held?
  logView : after.state.logView = before.state.logView

namespace Apart

theorem of_alike (alike : Alike viewer after) : Apart other viewer after :=
  ⟨fun _ _ => alike.session?, by rw [alike.sessions], alike.held, alike.logView⟩

theorem trans {first middle last : Viewer} (left : Apart other first middle)
    (right : Apart other middle last) : Apart other first last :=
  ⟨fun id differs => (right.sessions id differs).trans (left.sessions id differs),
    right.length.trans left.length, right.held.trans left.held, right.logView.trans left.logView⟩

theorem setStage (stage : Stage) : Apart other viewer (viewer.setStage other stage) := by
  refine ⟨fun id differs => ?_, setStage_sessions_length _ _, rfl, rfl⟩
  simp [session?_setStage, differs]

theorem goOn (inactive : viewer.state.active ≠ some other) (next : Option Nat) :
    Apart other viewer (viewer.goOn other next) := by
  rw [goOn_of_inactive inactive]
  exact .setStage _

end Apart

theorem act_of_listing {next : Option Nat} (found : viewer.session? id = some session)
    (own : action.session? = some id) (listing : session.stage = .listing next) :
    viewer.act answers action = viewer ∨ ∃ result, action = .listed id result ∧
      viewer.act answers action = viewer.listed id next result := by
  cases action <;> simp only [Action.session?, reduceCtorEq, Option.some.injEq] at own <;>
    subst own <;> simp only [act, turn, found, listing, true_or]
  rename_i result
  exact .inr ⟨result, rfl, rfl⟩

section
variable (coherent : Coherent may viewer) (own : action.session? = some other)
include coherent own

theorem Coherent.act_of_halted_cases
    (halted : ∀ session, viewer.session? other = some session → session.isRunning = false) :
    viewer.act answers action = viewer ∨ ∃ session, viewer.session? other = some session ∧
      ((∃ outcome, viewer.act answers action =
          (viewer.setStage other (.over outcome)).dispatchAll session.rest) ∨
        ∃ next result, viewer.act answers action = viewer.listed other next result) := by
  cases found : viewer.session? other with
  | none => exact .inl (act_of_unknown found own)
  | some session =>
    by_cases listing : ∃ next, session.stage = .listing next
    · obtain ⟨next, listing⟩ := listing
      refine (act_of_listing found own listing).imp_right ?_
      rintro ⟨result, -, acted⟩
      exact ⟨session, rfl, .inr ⟨next, result, acted⟩⟩
    · refine (coherent.act_of_halted found own (halted session found)
        fun next atStage => listing ⟨next, atStage⟩).imp_right fun ended => ?_
      exact ⟨session, rfl, .inl ended⟩

theorem Coherent.apart_of_halted
    (halted : ∀ session, viewer.session? other = some session → session.isRunning = false)
    (inactive : viewer.state.active ≠ some other) :
    Apart other viewer (viewer.act answers action) := by
  have turned : viewer.act answers action = viewer ∨ _ := coherent.act_of_halted_cases own halted
  rcases turned with same | ⟨session, found, ⟨outcome, acted⟩ | ⟨next, result, acted⟩⟩
  · rw [same]
    exact .of_alike (.refl viewer)
  · rw [acted]
    exact (Apart.setStage _).trans (.of_alike (.dispatchAll (coherent.fits found).rest_spares))
  · have told : Alike viewer (viewer.listAnswered result).1 := .listAnswered result
    rw [acted]
    refine (Apart.of_alike told).trans (.goOn ?_ next)
    rwa [told.active]

theorem Coherent.act_of_older (older : other ≠ viewer.sessions.length) :
    Apart other viewer (viewer.act answers action) :=
  coherent.apart_of_halted own (fun _ found => coherent.settled found older)
    fun active => older (coherent.front.active active)

end

/-! ## The session at hand -/

/-- A live session that has not been stopped, whether or not it has come to its end. -/
structure AtHand (viewer : Viewer) (id : SessionId) (session : Session) : Prop where
  coherent : Coherent .full viewer
  newest : id = viewer.sessions.length
  found : viewer.session? id = some session
  planned : session.plan.isSome
  uncancelled : session.isCancelled = false

def isUnstopped (viewer : Viewer) (id : SessionId) : Bool :=
  (viewer.session? id).all fun session => !session.isCancelled

theorem Grows.isUnstopped (grows : viewer.Grows after) (unstopped : after.isUnstopped id) :
    viewer.isUnstopped id := by
  cases found : viewer.session? id with
  | none => simp [Viewer.isUnstopped, found]
  | some session =>
    obtain ⟨later, foundLater, growth⟩ := grows found
    have uncancelled : later.isCancelled = false := by
      simpa [Viewer.isUnstopped, foundLater] using unstopped
    have before : session.isCancelled = false := by
      rw [Bool.eq_false_iff]
      intro cancelled
      simp [growth.cancelled cancelled] at uncancelled
    simp [Viewer.isUnstopped, found, before]

namespace AtHand

variable (atHand : AtHand viewer id session)
include atHand

theorem held : viewer.held? = some (id, session.job) := by
  have newest : viewer.newest? = some session := by
    rw [newest?, ← atHand.newest, atHand.found]
  have planned := atHand.planned
  have uncancelled := atHand.uncancelled
  have front := atHand.coherent.front
  rw [newest, ← atHand.newest] at front
  generalize viewer.held? = holding at front ⊢
  cases front with
  | running => rfl
  | ended =>
    obtain ⟨plan, planEq⟩ := Option.isSome_iff_exists.mp planned
    rw [planEq, Option.map_some]
  | stopped cancelled => simp [uncancelled] at cancelled

theorem isRunning (ongoing : session.isOver = false) : session.isRunning :=
  Session.isRunning_iff.mpr ⟨atHand.uncancelled, ongoing⟩

theorem of_sessions (coherent : Coherent .full after)
    (sessions : after.sessions = viewer.sessions) : AtHand after id session where
  coherent := coherent
  newest := by rw [sessions, atHand.newest]
  found := by rw [session?_congr id sessions, atHand.found]
  planned := atHand.planned
  uncancelled := atHand.uncancelled

theorem stops_eq_false (unstopped : (viewer.act answers action).isUnstopped id) :
    viewer.stops answers action = false := by
  rw [Bool.eq_false_iff]
  intro stops
  have held : viewer.current.map Slot.session = some id := by
    rw [current_session, atHand.held, Option.map_some]
  obtain ⟨later, found, cancelled⟩ := atHand.coherent.isCancelled_of_stops held stops
  simp [isUnstopped, found, cancelled] at unstopped

theorem act_of_other (proper : action.isProper) (foreign : action.session? ≠ some id)
    (unstopped : (viewer.act answers action).isUnstopped id) :
    AtHand (viewer.act answers action) id session ∧
      (viewer.act answers action).state.logView = viewer.state.logView := by
  have coherent : Coherent .full (viewer.act answers action) := atHand.coherent.act_full proper
  have stays := atHand.stops_eq_false unstopped
  cases own : action.session? with
  | none =>
    have alike : Alike viewer (viewer.act answers action) := .act_of_host own proper stays
    exact ⟨atHand.of_sessions coherent alike.sessions, alike.logView⟩
  | some other =>
    have differs : id ≠ other := fun same => foreign (same ▸ own)
    have apart : Apart other viewer (viewer.act answers action) :=
      atHand.coherent.act_of_older own (atHand.newest ▸ differs.symm)
    refine ⟨⟨coherent, ?_, ?_, atHand.planned, atHand.uncancelled⟩, apart.logView⟩
    · rw [apart.length, atHand.newest]
    · rw [apart.sessions id differs, atHand.found]

end AtHand

end Viewer

end BuildWatch
