import BuildWatch.Proofs.View.LogView

namespace BuildWatch

/-! ## Regions -/

inductive Region where
  | challenge
  | list
  | expansion
  | log
  deriving DecidableEq

@[reducible] def Region.Content : Region → Type
  | challenge => Option Challenge × Bool
  | list => List Summary × Bool
  | expansion => Bool
  | log => LogView

def ViewState.shown (state : ViewState) : (region : Region) → region.Content
  | .challenge => (state.challenge, state.isLoading)
  | .list => (state.summaries, state.isLoadingList)
  | .expansion => state.isListExpanded
  | .log => state.logView

namespace ViewEvent

/-- The region that an event is about. The message of a failure stands in none. -/
def region? : ViewEvent → Option Region
  | challengeLoadStarted | challengeLoaded _ | challengeLoadFinished => some .challenge
  | listLoadStarted | listLoaded _ | listLoadFinished => some .list
  | listToggled | listExpanded => some .expansion
  | failed _ => none
  | sessionOpened .. | chunkReceived .. | snapshotReceived .. | snapshotFailed ..
  | sessionFinished _ | sessionCancelled | logClosed => some .log

theorem sparesLog_of_region {event : ViewEvent} (other : event.region? ≠ some .log) :
    event.sparesLog := by
  cases event <;> first | rfl | exact absurd rfl other

end ViewEvent

def eventsAbout (region : Region) (events : List ViewEvent) : List ViewEvent :=
  events.filter fun event => event.region? = some region

namespace ViewState

variable {state other : ViewState} {event : ViewEvent} {region : Region} {session : SessionId}

/-! ## One event -/

theorem shown_reduce_of_other (foreign : event.region? ≠ some region) :
    (state.reduce event).shown region = state.shown region := by
  cases region with
  | log => exact logView_reduce_of_spares (ViewEvent.sparesLog_of_region foreign)
  | challenge | list | expansion =>
    unfold reduce
    split
    · cases event with
      | sessionOpened _ _ _ live => cases live <;> rfl
      | _ => first | rfl | exact absurd rfl foreign
    · rfl

theorem logView_eq_iff : state.logView = other.logView ↔
    state.selected = other.selected ∧ state.active = other.active ∧
      state.isFollowing = other.isFollowing ∧ state.isLoadingLog = other.isLoadingLog := by
  simp [logView]

theorem accepts_congr (same : state.logView = other.logView) :
    state.accepts event = other.accepts event := by
  obtain ⟨selected, active, -⟩ := logView_eq_iff.mp same
  simp [accepts, selected, active]

theorem logView_apply_congr (same : state.logView = other.logView) :
    (state.apply event).logView = (other.apply event).logView := by
  obtain ⟨selected, active, following, loading⟩ := logView_eq_iff.mp same
  cases event with
  | sessionOpened _ _ _ live => cases live <;> rfl
  | snapshotReceived => simp [apply_snapshot, logView, active, following]
  | _ => simp [apply, endSession, logView, selected, active, following, loading]

theorem shown_reduce_congr (same : state.shown region = other.shown region) :
    (state.reduce event).shown region = (other.reduce event).shown region := by
  by_cases own : event.region? = some region
  · cases region with
    | log =>
      have accepts : state.accepts event = other.accepts event := accepts_congr same
      unfold reduce
      rw [accepts]
      split
      · exact logView_apply_congr same
      · exact same
    | challenge | list | expansion =>
      simp only [shown, Prod.mk.injEq] at same
      cases event <;> first
        | simp [reduce, accepts, ViewEvent.session?, apply, shown, same]; done
        | cases own
  · rw [shown_reduce_of_other own, shown_reduce_of_other own, same]

/-! ## All events -/

theorem shown_reduceAll_about {events : List ViewEvent}
    (same : state.shown region = other.shown region) :
    (state.reduceAll events).shown region =
      (other.reduceAll (eventsAbout region events)).shown region := by
  induction events generalizing state other with
  | nil => exact same
  | cons event rest ih =>
    by_cases own : event.region? = some region
    · have kept : eventsAbout region (event :: rest) = event :: eventsAbout region rest := by
        simp [eventsAbout, own]
      rw [kept]
      exact ih (shown_reduce_congr same)
    · have left : eventsAbout region (event :: rest) = eventsAbout region rest := by
        simp [eventsAbout, own]
      rw [left]
      exact ih ((shown_reduce_of_other own).trans same)

theorem eq_of_shown (same : ∀ region, state.shown region = other.shown region) :
    state = { other with error := state.error } := by
  obtain ⟨challenge, loading⟩ := Prod.mk.inj (same .challenge)
  obtain ⟨summaries, loadingList⟩ := Prod.mk.inj (same .list)
  have expanded : state.isListExpanded = other.isListExpanded := same .expansion
  obtain ⟨selected, active, following, loadingLog⟩ := logView_eq_iff.mp (same .log)
  cases state
  simp_all

end ViewState

/-- The second list of events is the first one without some of those that come from a session which
is not the active one at their time. -/
inductive Thinned : ViewState → List ViewEvent → List ViewEvent → Prop
  | nil {state : ViewState} : Thinned state [] []
  | keep {state : ViewState} {event : ViewEvent} {events kept : List ViewEvent}
      (later : Thinned (state.reduce event) events kept) :
      Thinned state (event :: events) (event :: kept)
  | leaveOut {state : ViewState} {event : ViewEvent} {events kept : List ViewEvent}
      {session : SessionId} (said : event.session? = some session)
      (inactive : state.active ≠ some session)
      (later : Thinned (state.reduce event) events kept) : Thinned state (event :: events) kept

theorem Thinned.reduceAll_eq {state : ViewState} {events kept : List ViewEvent}
    (thinned : Thinned state events kept) : state.reduceAll kept = state.reduceAll events := by
  induction thinned with
  | nil => rfl
  | keep _ ih => exact ih
  | @leaveOut state event events kept session said inactive _ ih =>
    have refused := ViewState.reduce_of_not_accepts (ViewState.accepts_of_inactive said inactive)
    rw [refused] at ih
    rw [ih]
    exact congrArg (ViewState.reduceAll · events) refused.symm

/-- What a region shows after some events is what it shows after those about it alone, and events of
sessions that are not active at their time make no difference at all. So however the events about
the regions are mixed, at most the message differs in the end. -/
theorem regions_do_not_interfere (state : ViewState) (events : List ViewEvent) :
    (∀ region, (state.reduceAll events).shown region =
      (state.reduceAll (eventsAbout region events)).shown region) ∧
    (∀ kept, Thinned state events kept → state.reduceAll kept = state.reduceAll events) ∧
    ∀ others, (∀ region, eventsAbout region others = eventsAbout region events) →
      state.reduceAll others =
        { state.reduceAll events with error := (state.reduceAll others).error } := by
  refine ⟨fun region => ViewState.shown_reduceAll_about rfl, fun kept => Thinned.reduceAll_eq, ?_⟩
  intro others mixed
  apply ViewState.eq_of_shown
  intro region
  calc (state.reduceAll others).shown region
      = (state.reduceAll (eventsAbout region others)).shown region :=
        ViewState.shown_reduceAll_about rfl
    _ = (state.reduceAll (eventsAbout region events)).shown region := by rw [mixed region]
    _ = (state.reduceAll events).shown region := (ViewState.shown_reduceAll_about rfl).symm

theorem late_chunk_does_not_interfere :
    let opened : List ViewEvent :=
      [.sessionOpened 1 "old" .success false, .sessionOpened 2 "new" .building true]
    let news : List ViewEvent := [.chunkReceived 2 "line" .building, .failed "lost"]
    let mixed := opened ++ .chunkReceived 1 "late" .success :: news ++ [.listLoaded []]
    let tidy := opened ++ news ++ [.listLoaded []]
    let remixed := .listLoaded [] :: opened ++ .chunkReceived 1 "late" .success :: news
    ViewState.reduceAll {} tidy = ViewState.reduceAll {} mixed ∧
      ViewState.reduceAll {} remixed =
        { ViewState.reduceAll {} mixed with error := some "lost" } ∧
      (ViewState.reduceAll {} mixed).error = none := by
  intro opened news mixed tidy remixed
  obtain ⟨-, thinned, mixing⟩ := regions_do_not_interfere {} mixed
  have late : Thinned {} mixed tidy := by
    refine .keep (.keep (.leaveOut rfl (by decide) ?_))
    exact .keep (.keep (.keep .nil))
  have reordered : ∀ region, eventsAbout region remixed = eventsAbout region mixed := by
    intro region
    cases region <;> rfl
  exact ⟨thinned tidy late, mixing remixed reordered, rfl⟩

end BuildWatch
