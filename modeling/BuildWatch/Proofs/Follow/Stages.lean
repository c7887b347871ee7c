import BuildWatch.Proofs.Follow.Opening

namespace BuildWatch

def Session.IsNew (session : Session) : Prop :=
  session.stage = .ready ∨ session.stage = .loading

namespace Viewer

variable {viewer after : Viewer} {id other : SessionId} {session : Session} {answers : Answers}
  {action : Action}

/-! ## What the host asks for -/

theorem Alike.stop_sessions (alike : Alike viewer after) :
    after.stop.sessions = viewer.stop.sessions := by
  have same : after.current.map Slot.session = viewer.current.map Slot.session := by
    rw [current_session, current_session, alike.held]
  unfold stop
  cases before : viewer.current with
  | none =>
    have noneLeft : after.current = none := by simpa [before] using same
    rw [noneLeft]
    exact alike.sessions
  | some slot =>
    obtain ⟨other, still, sameId⟩ : ∃ other, after.current = some other ∧
        other.session = slot.session := by
      simpa [before] using same
    rw [still]
    simp [modify, sameId, alike.sessions]

theorem toggle_sessions (job : String) (status : Status) (sequel : List ViewEvent) :
    ∃ added, (viewer.toggle job status sequel).1.sessions = viewer.stop.sessions ++ added ∧
      ∀ session ∈ added, session.IsNew := by
  have new : (viewer.stop.newcomer job status sequel).IsNew := by
    unfold Session.IsNew newcomer
    dsimp only
    split <;> simp
  cases displayed : viewer.isDisplayed job with
  | true =>
    rw [toggle_of_displayed displayed]
    exact ⟨[], by simp, by simp⟩
  | false =>
    refine ⟨[viewer.stop.newcomer job status sequel], ?_, by simpa using new⟩
    cases planned : Plan.forStatus? viewer.config status with
    | some plan =>
      rw [toggle_of_planned displayed planned, dispatchAll_sessions]
      rfl
    | none =>
      rw [toggle_of_unplanned displayed planned]
      rfl

theorem toggles_of_stops (stops : viewer.stops answers action) :
    (∃ job status, viewer.toggles? answers action = some (job, status)) ∨
      action = .cancel ∨ action = .drop := by
  cases action with
  | toggle job status => exact .inl ⟨job, status, rfl⟩
  | openJob job known => exact .inl ⟨job, _, rfl⟩
  | enter challenge target =>
    simp only [Viewer.stops, Bool.and_eq_true, Option.any_eq_true] at stops
    obtain ⟨⟨name, given, answered⟩, targeted⟩ := stops
    obtain ⟨job, rfl⟩ := Option.isSome_iff_exists.mp targeted
    exact .inl ⟨job, _, by rw [toggles?, given, Option.bind_some, if_pos answered, Option.map_some]⟩
  | cancel => exact .inr (.inl rfl)
  | drop => exact .inr (.inr rfl)
  | _ => simp [Viewer.stops] at stops

theorem act_of_stops_sessions (stops : viewer.stops answers action) :
    ∃ added, (viewer.act answers action).sessions = viewer.stop.sessions ++ added ∧
      ∀ session ∈ added, session.IsNew := by
  rcases toggles_of_stops stops with ⟨job, status, toggles⟩ | rfl | rfl
  · obtain ⟨prepared, sequel, alike, -, -, -, acted⟩ := act_of_toggles toggles
    obtain ⟨added, sessions, new⟩ := prepared.toggle_sessions job status sequel
    exact ⟨added, by rw [acted, sessions, alike.stop_sessions], new⟩
  · refine ⟨[], ?_, by simp⟩
    rw [List.append_nil]
    cases atHand : viewer.current <;> simp [act, cancel, atHand, stop]
  · have settled : viewer.isLoading = false := by simpa [Viewer.stops] using stops
    refine ⟨[], ?_, by simp⟩
    rw [List.append_nil, act, if_neg (by simp [settled])]

theorem session?_append {added : List Session}
    (sessions : after.sessions = viewer.sessions ++ added)
    (found : viewer.session? id = some session) : after.session? id = some session := by
  cases id with
  | zero => cases found
  | succ n =>
    have known : n < viewer.sessions.length := (List.getElem?_eq_some_iff.mp found).choose
    rw [session?, sessions, List.getElem?_append_left known]
    exact found

section
variable (host : action.session? = none) (proper : action.isProper)
include host proper

theorem session?_act_of_host (answers : Answers) (found : viewer.session? id = some session) :
    (viewer.act answers action).session? id = some
      (if viewer.stops answers action ∧ viewer.held?.map Prod.fst = some id then
        { session with isCancelled := true }
      else session) := by
  by_cases stops : viewer.stops answers action
  · obtain ⟨added, sessions, -⟩ := act_of_stops_sessions stops
    have stopped := session?_stop viewer id
    rw [found, Option.map_some] at stopped
    rw [session?_append sessions stopped]
    simp only [stops, true_and]
  · have alike : Alike viewer (viewer.act answers action) :=
      .act_of_host host proper (by simpa using stops)
    rw [alike.session?, found, if_neg fun both => stops both.1]

theorem stage_of_host (found : (viewer.act answers action).session? id = some session) :
    session.IsNew ∨ ∃ earlier, viewer.session? id = some earlier ∧
      earlier.stage = session.stage := by
  cases known : viewer.session? id with
  | some earlier =>
    refine .inr ⟨earlier, rfl, ?_⟩
    have kept := session?_act_of_host host proper answers known
    rw [found, Option.some.injEq] at kept
    rw [kept]
    split <;> rfl
  | none =>
    left
    by_cases stops : viewer.stops answers action
    · obtain ⟨added, sessions, new⟩ := act_of_stops_sessions stops
      cases id with
      | zero => cases found
      | succ n =>
        have beyond : viewer.stop.sessions.length ≤ n := by
          rw [stop_sessions_length]
          exact List.getElem?_eq_none_iff.mp known
        rw [session?, sessions, List.getElem?_append_right beyond] at found
        exact new session (List.mem_of_getElem? found)
    · have alike : Alike viewer (viewer.act answers action) :=
        .act_of_host host proper (by simpa using stops)
      rw [alike.session?, known] at found
      cases found

end

/-! ## Turns -/

theorem publish?_sessions {event : ViewEvent}
    (published : viewer.publish? session event = some after) :
    after.sessions = viewer.sessions := by
  unfold publish? at published
  split at published
  · exact Option.some.inj published ▸ rfl
  · cases published

def Restaged (may : Stage → Prop) (id : SessionId) (viewer after : Viewer) : Prop :=
  after.sessions = viewer.sessions ∨
    ∃ stage, may stage ∧ after.sessions = (viewer.setStage id stage).sessions

def Streamless (stage : Stage) : Prop :=
  stage ≠ .ready ∧ ∀ stream, stage ≠ .receiving stream

namespace Restaged

variable {may : Stage → Prop}

theorem of_sessions (same : after.sessions = viewer.sessions) : Restaged may id viewer after :=
  .inl same

theorem head {middle : Viewer} (same : middle.sessions = viewer.sessions)
    (restaged : Restaged may id middle after) : Restaged may id viewer after := by
  rcases restaged with unchanged | ⟨stage, allowed, changed⟩
  · exact .inl (unchanged.trans same)
  · exact .inr ⟨stage, allowed, changed.trans (setStage_sessions_congr stage same)⟩

theorem mono {more : Stage → Prop} (restaged : Restaged may id viewer after)
    (implies : ∀ stage, may stage → more stage) : Restaged more id viewer after :=
  restaged.imp_right fun ⟨stage, allowed, changed⟩ => ⟨stage, implies stage allowed, changed⟩

theorem setStage {stage : Stage} (allowed : may stage) :
    Restaged may id viewer (viewer.setStage id stage) :=
  .inr ⟨stage, allowed, rfl⟩

theorem conclude (outcome : Outcome) : Restaged Streamless id viewer (viewer.conclude id outcome) :=
  .inr ⟨.over outcome, ⟨by simp, by simp⟩, conclude_sessions viewer id outcome⟩

theorem goOn (next : Option Nat) : Restaged Streamless id viewer (viewer.goOn id next) := by
  cases next with
  | none => exact .conclude .completed
  | some tick => exact .setStage ⟨by simp, by simp⟩

theorem refreshFor (next : Option Nat) :
    Restaged Streamless id viewer (viewer.refreshFor answers id session next) := by
  unfold Viewer.refreshFor
  split
  · exact .goOn next
  · split
    · exact .goOn next
    · split
      · exact .setStage ⟨by simp, by simp⟩
      · exact .head (Alike.loadList answers _).sessions (.goOn next)

theorem poll (tick : Nat) : Restaged Streamless id viewer (viewer.poll id session tick) :=
  .setStage ⟨by simp, by simp⟩

theorem begin : Restaged Streamless id viewer (viewer.begin id session) := by
  unfold Viewer.begin
  split
  · exact .conclude .cancelled
  · split
    · exact .poll 0
    · exact .setStage ⟨by simp, by simp⟩

theorem received (item : StreamItem) :
    Restaged Streamless id viewer (viewer.received answers id session item) := by
  unfold Viewer.received
  split
  · exact .conclude .cancelled
  · split
    · exact .conclude .ended
    · exact .conclude _
    · split
      · exact .conclude .superseded
      · rename_i chunk _ shown published
        have scrolled : (if chunk.line = "" then shown else shown.scroll session).sessions =
            viewer.sessions := by
          split
          · exact publish?_sessions published
          · exact (Alike.scroll session).sessions.trans (publish?_sessions published)
        dsimp only
        split
        · exact .head scrolled (.refreshFor none)
        · exact .of_sessions scrolled

theorem polled (tick : Nat) (result : Except Fault Snapshot) :
    Restaged Streamless id viewer (viewer.polled answers id session tick result) := by
  unfold Viewer.polled
  split
  · exact .conclude .cancelled
  · split
    · exact .setStage ⟨by simp, by simp⟩
    · split
      · exact .conclude .superseded
      · rename_i published
        refine .head ((Alike.scroll session).sessions.trans (publish?_sessions published)) ?_
        dsimp only
        by_cases refreshes : 0 < tick ∧ session.pollPlan.2
        · rw [if_pos refreshes]
          exact .refreshFor _
        · rw [if_neg refreshes]
          exact .goOn _

theorem rested (tick : Nat) : Restaged Streamless id viewer (viewer.rested id session tick) := by
  unfold Viewer.rested
  split
  · exact .conclude .cancelled
  · exact .poll tick

theorem noticed : Restaged Streamless id viewer
    (if session.isCancelled then viewer.conclude id .cancelled else viewer) := by
  split
  · exact .conclude .cancelled
  · exact .of_sessions rfl

end Restaged

theorem restaged_of_turn (viewer : Viewer) (answers : Answers) (own : action.session? = some id) :
    Restaged (fun stage => stage ≠ .ready ∧
      ∀ stream, stage = .receiving stream → action = .openStream id (.ok stream)) id viewer
      (viewer.act answers action) := by
  have streamless {after : Viewer} (restaged : Restaged Streamless id viewer after) :
      Restaged (fun stage => stage ≠ .ready ∧
        ∀ stream, stage = .receiving stream → action = .openStream id (.ok stream)) id viewer
        after :=
    restaged.mono fun stage reached =>
      ⟨reached.1, fun stream holds => absurd holds (reached.2 stream)⟩
  cases action <;> simp only [Action.session?, reduceCtorEq, Option.some.injEq] at own <;>
    subst own
  case start =>
    refine turn_cases (.of_sessions rfl) fun session _ => ?_
    split
    · exact streamless .begin
    · exact .of_sessions rfl
  case openStream result =>
    refine turn_cases (.of_sessions rfl) fun session _ => ?_
    split
    · unfold opened
      split
      · exact streamless (.conclude .cancelled)
      · cases result with
        | ok stream =>
          refine .setStage ⟨by simp, fun held same => ?_⟩
          rw [Stage.receiving.inj same]
        | error fault => exact streamless (.conclude _)
    · exact .of_sessions rfl
  case receive item =>
    refine turn_cases (.of_sessions rfl) fun session _ => ?_
    split
    · exact streamless (.received item)
    · exact .of_sessions rfl
  case answer result =>
    refine turn_cases (.of_sessions rfl) fun session _ => ?_
    split
    · exact streamless (.polled _ result)
    · exact streamless (.inr ⟨_, ⟨by simp, by simp⟩, loaded_sessions _ _ _ _⟩)
    · exact .of_sessions rfl
  case wake =>
    refine turn_cases (.of_sessions rfl) fun session _ => ?_
    split
    · exact streamless (.rested _)
    · exact .of_sessions rfl
  case notice id =>
    refine turn_cases (.of_sessions rfl) fun session _ => ?_
    split
    · exact streamless .noticed
    · exact streamless .noticed
    · exact streamless .noticed
    · exact .of_sessions rfl
  case listed result =>
    refine turn_cases (.of_sessions rfl) fun session _ => ?_
    split
    · exact streamless (.head (Alike.listAnswered result).sessions (.goOn _))
    · exact .of_sessions rfl

end Viewer

end BuildWatch
