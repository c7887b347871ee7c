import BuildWatch.Proofs.Follow.Setbacks
import BuildWatch.Proofs.Follow.Told

namespace BuildWatch

namespace ViewEvent

def isOfSession : ViewEvent → Bool
  | challengeLoadFinished | listLoadStarted | listLoaded _ | listLoadFinished | chunkReceived ..
  | snapshotReceived .. | snapshotFailed .. | sessionFinished _ => true
  | _ => false

theorem isOfSession_of_isOfLive {job : String} {event : ViewEvent} (live : event.isOfLive job) :
    event.isOfSession := by
  cases event <;> first | rfl | cases live

theorem isOfSession_of_isOfLoad {event : ViewEvent} (loads : event.isOfLoad) :
    event.isOfSession := by
  cases event <;> first | rfl | cases loads

def list? : ViewEvent → Option (List Summary)
  | listLoaded summaries => some summaries
  | _ => none

end ViewEvent

def listsOf (announced : List Announcement) : List (List Summary) :=
  announced.filterMap fun announcement => announcement.event.list?

namespace ViewState

theorem summaries_reduce (state : ViewState) (event : ViewEvent) :
    (state.reduce event).summaries = event.list?.getD state.summaries := by
  cases event with
  | listLoaded summaries => rfl
  | challengeLoaded challenge => rfl
  | _ => exact (state.reduce_of_sparesList rfl).2

theorem challenge_reduce_of_isOfSession (state : ViewState) {event : ViewEvent}
    (told : event.isOfSession) : (state.reduce event).challenge = state.challenge := by
  cases event with
  | challengeLoaded challenge => cases told
  | listLoaded summaries => rfl
  | _ => exact (state.reduce_of_sparesList rfl).1

theorem summaries_hearing (state : ViewState) (announced : List Announcement) :
    (state.hearing announced).summaries = (listsOf announced).getLast?.getD state.summaries := by
  induction announced generalizing state with
  | nil => rfl
  | cons announcement rest ih =>
    have split : listsOf (announcement :: rest) =
        announcement.event.list?.toList ++ listsOf rest := by
      cases brought : announcement.event.list? <;> simp [listsOf, brought]
    have later := ih (state.reduce announcement.event)
    rw [summaries_reduce] at later
    rw [split, List.getLast?_append]
    refine later.trans ?_
    cases (listsOf rest).getLast? <;> cases announcement.event.list? <;> rfl

end ViewState

namespace Viewer

variable {viewer : Viewer} {answers : Answers} {action : Action} {id : SessionId}

/-! ## Lists -/

def listsOfRun : Viewer → List (Answers × Action) → List (List Summary) :=
  gathered (fun viewer step => viewer.act step.1 step.2) fun viewer step =>
    listsOf (viewer.announced step.1 step.2)

theorem act_summaries (viewer : Viewer) (answers : Answers) (action : Action) :
    (viewer.act answers action).state.summaries =
      (listsOf (viewer.announced answers action)).getLast?.getD viewer.state.summaries := by
  have told : (viewer.act answers action).state = _ := act_announces viewer answers action
  rw [told, ViewState.summaries_hearing]

theorem run_summaries (viewer : Viewer) (steps : List (Answers × Action)) :
    (viewer.run steps).state.summaries =
      (viewer.listsOfRun steps).getLast?.getD viewer.state.summaries := by
  induction steps generalizing viewer with
  | nil => rfl
  | cons step rest ih =>
    have split : viewer.listsOfRun (step :: rest) =
        listsOf (viewer.announced step.1 step.2) ++
          (viewer.act step.1 step.2).listsOfRun rest := rfl
    rw [run_cons, ih, act_summaries, split, List.getLast?_append]
    cases ((viewer.act step.1 step.2).listsOfRun rest).getLast? <;> rfl

/-! ## Turns -/

theorem Told.loaded_of_plain {may : ViewEvent → Bool} {session : Session}
    (loads : ∀ event : ViewEvent, event.isOfLoad → may event) (ends : may .challengeLoadFinished)
    (plain : ∀ event ∈ session.sequel, event = .challengeLoadFinished)
    (result : Except Fault Snapshot) : Told may viewer (viewer.loaded id session result) := by
  refine .loaded loads (fun event member => ?_) result
  rw [plain event member]
  exact ends

theorem Told.of_turn (belongs : viewer.Belongs fun _ => True) (own : action.session? = some id) :
    Told ViewEvent.isOfSession viewer (viewer.act answers action) := by
  cases found : viewer.session? id with
  | none =>
    rw [act_of_unknown found own]
    exact .refl viewer
  | some session =>
    by_cases loading : session.stage = .loading
    · rcases act_of_loading found own loading with idle | ⟨result, -, acted⟩
      · rw [idle]
        exact .refl viewer
      · rw [acted]
        exact .loaded_of_plain (fun _ => ViewEvent.isOfSession_of_isOfLoad) rfl
          (belongs.sessions found).sequel result
    · exact (Told.act_of_planned found own loading).mono fun _ =>
        ViewEvent.isOfSession_of_isOfLive

theorem Told.of_turns {steps : List (Answers × Action)} (belongs : viewer.Belongs fun _ => True)
    (turns : ∀ step ∈ steps, step.2.session?.isSome) :
    Told ViewEvent.isOfSession viewer (viewer.run steps) := by
  induction steps generalizing viewer with
  | nil => exact .refl viewer
  | cons step rest ih =>
    obtain ⟨id, own⟩ := Option.isSome_iff_exists.mp (turns step (by simp))
    have first : Told ViewEvent.isOfSession viewer (viewer.act step.1 step.2) :=
      .of_turn belongs own
    exact first.trans (ih belongs.act_of_any fun step member => turns step (by simp [member]))

theorem Told.challenge {after : Viewer} (told : Told ViewEvent.isOfSession viewer after) :
    after.state.challenge = viewer.state.challenge :=
  told.keeps (motive := fun state => state.challenge = viewer.state.challenge)
    (fun state _ told same => (state.challenge_reduce_of_isOfSession told).trans same) rfl

end Viewer

end BuildWatch
