import BuildWatch.Proofs.Follow.DeepLink
import BuildWatch.Proofs.Follow.Meanwhile

namespace BuildWatch.Viewer

/-! ## A request on its way -/

def listTold (viewer : Viewer) (result : Except Fault (List Summary)) : Viewer :=
  let (viewer, isLoaded) := viewer.listAnswered result
  if isLoaded then viewer else viewer.dispatch (.failed "failed to load build logs")

/-- The turns of sessions while a request waits: for the challenge, for the list, and for a log. -/
structure Pauses where
  challenge : List (Answers × Action) := []
  list : List (Answers × Action) := []
  log : List (Answers × Action) := []

def Pauses.turns (pauses : Pauses) : List (Answers × Action) :=
  pauses.challenge ++ pauses.list ++ pauses.log

/-- A request on its way. Each of its own steps has the viewer before and after. -/
structure Visit where
  viewer : Viewer
  steps : List (Viewer × Viewer) := []
  lists : List (List Summary) := []

namespace Visit

def calls (visit : Visit) : List Call :=
  visit.steps.flatMap fun step => step.2.calls.drop step.1.calls.length

def does (visit : Visit) (change : Viewer → Viewer) : Visit :=
  { visit with
    viewer := change visit.viewer
    steps := visit.steps ++ [(visit.viewer, change visit.viewer)] }

def waits (visit : Visit) (turns : List (Answers × Action)) : Visit :=
  { visit with
    viewer := visit.viewer.run turns
    lists := visit.lists ++ visit.viewer.listsOfRun turns }

def asksChallenge (visit : Visit) (id : String) : Visit :=
  visit.does fun viewer => (viewer.dispatch .challengeLoadStarted).call (.challenge id)

def asksList (visit : Visit) (id : String) (found : Challenge) : Visit :=
  visit.does fun viewer =>
    ({ viewer.dispatch (.challengeLoaded found) with challenge := some id } : Viewer).askList id

def takesList (visit : Visit) (result : Except Fault (List Summary)) : Visit :=
  visit.does fun viewer => viewer.listTold result

def opens (visit : Visit) (job : String) : Visit :=
  visit.does fun viewer =>
    ((viewer.dispatch .listExpanded).openJob job none [.challengeLoadFinished]).1

def returns (visit : Visit) (id : SessionId) (turns : List (Answers × Action)) (asked : Answers)
    (log : Except Fault Snapshot) : Visit :=
  if (visit.viewer.session? id).any fun session => session.stage == .loading then
    (visit.waits turns).does fun viewer => viewer.act asked (.answer id log)
  else visit

def heard (start : Viewer) (pauses : Pauses) (id : String) : Visit :=
  (asksChallenge { viewer := start } id).waits pauses.challenge

def informed (start : Viewer) (answers : Answers) (pauses : Pauses) (id : String)
    (found : Challenge) : Visit :=
  (((heard start pauses id).asksList id found).waits pauses.list).takesList (answers.list id)

def enter (start : Viewer) (answers : Answers) (challenge target : Option String) (pauses : Pauses)
    (asked : Answers) (log : Except Fault Snapshot) : Visit :=
  match challenge.filter (· ≠ "") with
  | none => does { viewer := start } fun viewer => viewer.dispatch (.failed "no challenge id given")
  | some id =>
    match answers.challenge id with
    | .error fault =>
      (heard start pauses id).does fun viewer => viewer.dispatchAll (challengeSetback fault)
    | .ok found =>
      let visit := informed start answers pauses id found
      match target with
      | none => visit.does fun viewer => viewer.dispatch .challengeLoadFinished
      | some job =>
        (visit.opens job).returns (visit.viewer.sessions.length + 1) pauses.log asked log

end Visit

variable {start viewer after : Viewer} {answers asked : Answers} {challenge target : Option String}
  {id job : String} {found : Challenge} {log : Except Fault Snapshot} {session : SessionId}
  {turns : List (Answers × Action)} {visit : Visit} {shown : Option Challenge}

/-! ## Requests without pauses -/

theorem returned_of_missing (missing : viewer.session? session = none) :
    viewer.returned session turns asked log = viewer := by
  simp [returned, missing]

theorem session?_beyond (viewer : Viewer) :
    viewer.session? (viewer.sessions.length + 1) = none := by
  simp [session?]

theorem Visit.returns_viewer (visit : Visit) (session : SessionId) (turns : List (Answers × Action))
    (asked : Answers) (log : Except Fault Snapshot) :
    (visit.returns session turns asked log).viewer =
      visit.viewer.returned session turns asked log := by
  unfold Visit.returns returned
  split <;> rfl

section
variable (start answers asked target log) (pauses : Pauses)

theorem Visit.enter_of_unnamed (unnamed : challenge.filter (· ≠ "") = none) :
    Visit.enter start answers challenge target pauses asked log =
      Visit.does { viewer := start } fun viewer =>
        viewer.dispatch (.failed "no challenge id given") := by
  simp only [Visit.enter, unnamed]

theorem Visit.enter_of_error {fault : Fault} (given : challenge.filter (· ≠ "") = some id)
    (failed : answers.challenge id = .error fault) :
    Visit.enter start answers challenge target pauses asked log =
      (Visit.heard start pauses id).does fun viewer =>
        viewer.dispatchAll (challengeSetback fault) := by
  simp only [Visit.enter, given, failed]

theorem Visit.enter_of_ok (given : challenge.filter (· ≠ "") = some id)
    (answered : answers.challenge id = .ok found) :
    Visit.enter start answers challenge none pauses asked log =
      (Visit.informed start answers pauses id found).does fun viewer =>
        viewer.dispatch .challengeLoadFinished := by
  simp only [Visit.enter, given, answered]

theorem Visit.enter_of_target (job : String) (given : challenge.filter (· ≠ "") = some id)
    (answered : answers.challenge id = .ok found) :
    Visit.enter start answers challenge (some job) pauses asked log =
      ((Visit.informed start answers pauses id found).opens job).returns
        ((Visit.informed start answers pauses id found).viewer.sessions.length + 1) pauses.log
        asked log := by
  simp only [Visit.enter, given, answered]

/-- A request is the action of a viewer where nothing happens meanwhile. -/
theorem enter_viewer (challenge : Option String) :
    (Visit.enter start answers challenge target {} asked log).viewer =
      (start.act answers (.enter challenge target)).returned (start.sessions.length + 1) [] asked
        log := by
  have of_same {entered : Viewer} (same : entered.sessions = start.sessions) :
      entered = entered.returned (start.sessions.length + 1) [] asked log := by
    refine (returned_of_missing ?_).symm
    rw [session?_congr _ same]
    exact start.session?_beyond
  rw [act]
  cases given : challenge.filter (· ≠ "") with
  | none =>
    rw [Visit.enter_of_unnamed _ _ _ _ _ _ given]
    simp only [enter, given]
    exact of_same rfl
  | some id =>
    cases answered : answers.challenge id with
    | error fault =>
      rw [Visit.enter_of_error _ _ _ _ _ _ given answered]
      simp only [enter, given, answered]
      exact of_same rfl
    | ok found =>
      obtain ⟨store, listed⟩ := showList_eq (start.introduced id found) answers id
      have sessions : ((start.introduced id found).showList answers id).sessions =
          start.sessions := by rw [listed]; rfl
      cases target with
      | none =>
        rw [Visit.enter_of_ok _ _ _ _ _ given answered]
        simp only [enter, given, answered]
        exact of_same sessions
      | some job =>
        have informed : (Visit.informed start answers {} id found).viewer =
            (start.introduced id found).showList answers id := rfl
        rw [enter_eq given answered, Visit.enter_of_target _ _ _ _ _ _ given answered,
          Visit.returns_viewer, informed, sessions]
        rfl

end

/-! ## Orderly viewers -/

structure Orderly (viewer : Viewer) : Prop where
  coherent : Coherent .full viewer
  belongs : viewer.Belongs fun _ => True

namespace Orderly

theorem of_reachable (reached : viewer.Reachable) : Orderly viewer := by
  refine ⟨reached.coherent, ?_⟩
  obtain ⟨config, steps, -, rfl⟩ := reached
  exact (belongs_start config).run_of_any steps

theorem alike (orderly : Orderly viewer) (same : Alike viewer after) : Orderly after where
  coherent := orderly.coherent.alike same
  belongs := ⟨fun _ _ => trivial, fun _ _ => trivial, fun located =>
    orderly.belongs.sessions (same.session? ▸ located)⟩

theorem run (orderly : Orderly viewer) (only : ∀ step ∈ turns, step.2.session?.isSome) :
    Orderly (viewer.run turns) where
  coherent := by
    refine (orderly.coherent.run_moves turns fun step member => ?_).coherent orderly.coherent
    obtain ⟨id, own⟩ := Option.isSome_iff_exists.mp (only step member)
    exact .full (Action.isProper_of_ordinary (Action.isOrdinary_of_session own))
  belongs := orderly.belongs.run_of_any turns

theorem toggle (orderly : Orderly viewer) (job : String) (status : Status) :
    Orderly (viewer.toggle job status [.challengeLoadFinished]).1 where
  coherent := (Moves.toggle (by simp [ViewEvent.sparesLog])).coherent orderly.coherent
  belongs :=
    have within : Within (fun _ => True) (fun _ => none) viewer
        (viewer.toggle job status [.challengeLoadFinished]).1 :=
      .toggle orderly.belongs (by simp)
    within.belongs

end Orderly

/-! ## The calls of a request -/

namespace Visit

theorem calls_does (visit : Visit) (change : Viewer → Viewer) : (visit.does change).calls =
    visit.calls ++ (change visit.viewer).calls.drop visit.viewer.calls.length := by
  simp [calls, does]

theorem calls_of_asked {change : Viewer → Viewer} {calls : List Call}
    (asked : (change visit.viewer).calls = visit.viewer.calls ++ calls) :
    (visit.does change).calls = visit.calls ++ calls := by
  rw [calls_does, asked, List.drop_left]

theorem calls_of_silent {change : Viewer → Viewer}
    (silent : (change visit.viewer).calls = visit.viewer.calls) :
    (visit.does change).calls = visit.calls := by
  rw [calls_does, silent, List.drop_length, List.append_nil]

theorem calls_asksChallenge (visit : Visit) (id : String) :
    (visit.asksChallenge id).calls = visit.calls ++ [.challenge id] :=
  calls_of_asked rfl

theorem calls_asksList (visit : Visit) (id : String) (found : Challenge) :
    (visit.asksList id found).calls = visit.calls ++ [.list id] :=
  calls_of_asked rfl

theorem calls_takesList (visit : Visit) (result : Except Fault (List Summary)) :
    (visit.takesList result).calls = visit.calls := by
  refine calls_of_silent ?_
  cases result <;> rfl

theorem calls_waits (visit : Visit) (turns : List (Answers × Action)) :
    (visit.waits turns).calls = visit.calls := rfl

theorem calls_heard (start : Viewer) (pauses : Pauses) (id : String) :
    (heard start pauses id).calls = [.challenge id] := by
  rw [heard, calls_waits, calls_asksChallenge]
  rfl

theorem calls_informed (start : Viewer) (answers : Answers) (pauses : Pauses) (id : String)
    (found : Challenge) :
    (informed start answers pauses id found).calls = [.challenge id, .list id] := by
  rw [informed, calls_takesList, calls_waits, calls_asksList, calls_heard]
  rfl

end Visit

/-! ## A request until it has been told about the list -/

theorem Visit.spares_does {change : Viewer → Viewer}
    (spares : ∀ step ∈ visit.steps, Alike step.1 step.2)
    (alike : Alike visit.viewer (change visit.viewer)) :
    ∀ step ∈ (visit.does change).steps, Alike step.1 step.2 := by
  intro step member
  rcases List.mem_append.mp member with earlier | last
  · exact spares step earlier
  · obtain rfl := List.mem_singleton.mp last
    exact alike

structure Underway (start : Viewer) (shown : Option Challenge) (visit : Visit) : Prop where
  orderly : Orderly visit.viewer
  length : visit.viewer.sessions.length = start.sessions.length
  spares : ∀ step ∈ visit.steps, Alike step.1 step.2
  challenge : visit.viewer.state.challenge = shown
  summaries : visit.viewer.state.summaries = visit.lists.getLast?.getD start.state.summaries

namespace Underway

theorem begin (orderly : Orderly start) :
    Underway start start.state.challenge { viewer := start } :=
  ⟨orderly, rfl, by simp, rfl, rfl⟩

theorem does {change : Viewer → Viewer} {next : Option Challenge}
    (underway : Underway start shown visit) (alike : Alike visit.viewer (change visit.viewer))
    (challenge : (change visit.viewer).state.challenge = next)
    (same : (change visit.viewer).state.summaries = visit.viewer.state.summaries) :
    Underway start next (visit.does change) where
  orderly := underway.orderly.alike alike
  length := (congrArg List.length alike.sessions).trans underway.length
  spares := Visit.spares_does underway.spares alike
  challenge
  summaries := same.trans underway.summaries

theorem waits (underway : Underway start shown visit)
    (only : ∀ step ∈ turns, step.2.session?.isSome) : Underway start shown (visit.waits turns) := by
  have told : Told ViewEvent.isOfSession visit.viewer (visit.viewer.run turns) :=
    .of_turns underway.orderly.belongs only
  refine ⟨underway.orderly.run only, told.length.trans underway.length, underway.spares,
    told.challenge.trans underway.challenge, ?_⟩
  have summaries := run_summaries visit.viewer turns
  rw [underway.summaries] at summaries
  refine summaries.trans ?_
  rw [Visit.waits, List.getLast?_append]
  cases (visit.viewer.listsOfRun turns).getLast? <;> rfl

theorem asksChallenge (underway : Underway start shown visit) (id : String) :
    Underway start shown (visit.asksChallenge id) := by
  have alike : Alike visit.viewer
      ((visit.viewer.dispatch .challengeLoadStarted).call (.challenge id)) :=
    (Alike.dispatch rfl).trans (.call _)
  exact underway.does alike underway.challenge rfl

theorem asksList (underway : Underway start shown visit) (id : String) (found : Challenge) :
    Underway start (some found) (visit.asksList id found) := by
  have told : Alike visit.viewer (visit.viewer.dispatch (.challengeLoaded found)) := .dispatch rfl
  have moved : Alike (visit.viewer.dispatch (.challengeLoaded found))
      { visit.viewer.dispatch (.challengeLoaded found) with challenge := some id } :=
    ⟨rfl, rfl, rfl⟩
  have asked := (told.trans moved).trans (.askList id)
  exact underway.does asked rfl rfl

theorem heard {pauses : Pauses} (orderly : Orderly start)
    (only : ∀ step ∈ pauses.turns, step.2.session?.isSome) (id : String) :
    Underway start start.state.challenge (Visit.heard start pauses id) :=
  ((Underway.begin orderly).asksChallenge id).waits fun step member =>
    only step (by simp [Pauses.turns, member])

end Underway

/-! ## Requests that open no job -/

/-- What comes of a request whose challenge cannot be loaded. -/
structure Lost (start : Viewer) (id : String) (fault : Fault) (visit : Visit) : Prop where
  calls : visit.calls = [.challenge id]
  challenge : visit.viewer.state.challenge = start.state.challenge
  summaries : visit.viewer.state.summaries = visit.lists.getLast?.getD start.state.summaries
  error : visit.viewer.state.error =
    some (if fault.isNotFound then "challenge not found" else "failed to load challenge")
  isLoading : visit.viewer.state.isLoading = false
  spares : ∀ step ∈ visit.steps, Alike step.1 step.2

theorem lost_of_error {pauses : Pauses} {fault : Fault} (orderly : Orderly start)
    (only : ∀ step ∈ pauses.turns, step.2.session?.isSome) (id : String) :
    Lost start id fault ((Visit.heard start pauses id).does fun viewer =>
      viewer.dispatchAll (challengeSetback fault)) := by
  have heard := Underway.heard orderly only id
  have spare : ∀ event ∈ challengeSetback fault, event.sparesLog := by
    simp [challengeSetback, ViewEvent.sparesLog]
  have failed : Underway start start.state.challenge
      ((Visit.heard start pauses id).does fun viewer =>
        viewer.dispatchAll (challengeSetback fault)) :=
    heard.does (.dispatchAll spare) heard.challenge rfl
  refine ⟨?_, failed.challenge, failed.summaries, rfl, rfl, failed.spares⟩
  rw [Visit.calls_of_silent (dispatchAll_calls _ _), Visit.calls_heard]

/-- What has come of a request when it has been told about the list, and what comes of one without a
job to open. -/
structure Informed (start : Viewer) (id : String) (found : Challenge)
    (result : Except Fault (List Summary)) (visit : Visit) : Prop where
  calls : visit.calls = [.challenge id, .list id]
  challenge : visit.viewer.state.challenge = some found
  summaries : visit.viewer.state.summaries =
    result.toOption.getD (visit.lists.getLast?.getD start.state.summaries)
  error : visit.viewer.state.error = if result.isOk then none else some "failed to load build logs"
  isLoadingList : visit.viewer.state.isLoadingList = false
  spares : ∀ step ∈ visit.steps, Alike step.1 step.2

theorem alike_listTold (viewer : Viewer) (result : Except Fault (List Summary)) :
    Alike viewer (viewer.listTold result) := by
  cases result with
  | ok summaries => exact .dispatch rfl
  | error fault =>
    have settled : Alike viewer (viewer.dispatch .listLoadFinished) := .dispatch rfl
    exact settled.trans (.dispatch rfl)

theorem listTold_state (viewer : Viewer) (result : Except Fault (List Summary)) :
    (viewer.listTold result).state.challenge = viewer.state.challenge ∧
    (viewer.listTold result).state.summaries = result.toOption.getD viewer.state.summaries ∧
    (viewer.listTold result).state.error =
      (if result.isOk then none else some "failed to load build logs") ∧
    (viewer.listTold result).state.isLoadingList = false := by
  cases result <;> exact ⟨rfl, rfl, rfl, rfl⟩

namespace Informed

theorem of_ok {pauses : Pauses} (orderly : Orderly start)
    (only : ∀ step ∈ pauses.turns, step.2.session?.isSome) (answers : Answers) (id : String)
    (found : Challenge) :
    Informed start id found (answers.list id) (Visit.informed start answers pauses id found) ∧
      Orderly (Visit.informed start answers pauses id found).viewer ∧
      (Visit.informed start answers pauses id found).viewer.sessions.length =
        start.sessions.length := by
  have listing : Underway start (some found)
      (((Visit.heard start pauses id).asksList id found).waits pauses.list) :=
    ((Underway.heard orderly only id).asksList id found).waits fun step member =>
      only step (by simp [Pauses.turns, member])
  have calls := Visit.calls_informed start answers pauses id found
  unfold Visit.informed at calls ⊢
  generalize (Visit.waits _ pauses.list) = visit at listing calls ⊢
  have alike : Alike visit.viewer (visit.viewer.listTold (answers.list id)) := alike_listTold _ _
  obtain ⟨challenge, summaries, error, isLoadingList⟩ :=
    listTold_state visit.viewer (answers.list id)
  refine ⟨?_, listing.orderly.alike alike,
    (congrArg List.length alike.sessions).trans listing.length⟩
  exact {
    calls, error, isLoadingList
    challenge := challenge.trans listing.challenge
    summaries := summaries.trans (by rw [listing.summaries]; rfl)
    spares := Visit.spares_does listing.spares alike }

theorem finishes {result : Except Fault (List Summary)}
    (informed : Informed start id found result visit) :
    Informed start id found result
      (visit.does fun viewer => viewer.dispatch .challengeLoadFinished) := by
  have alike : Alike visit.viewer (visit.viewer.dispatch .challengeLoadFinished) := .dispatch rfl
  exact {
    calls := (Visit.calls_of_silent rfl).trans informed.calls
    challenge := informed.challenge
    summaries := informed.summaries
    error := informed.error
    isLoadingList := informed.isLoadingList
    spares := Visit.spares_does informed.spares alike }

end Informed

/-! ## Requests that open a job -/

def listedStatus (viewer : Viewer) (job : String) : Status :=
  (statusOf? viewer.state.summaries job).getD .unspecified

def linked (viewer : Viewer) (job : String) : Viewer :=
  ((viewer.dispatch .listExpanded).toggle job (viewer.listedStatus job) [.challengeLoadFinished]).1

/-- What comes of a request with a job to open, once it has been told about the list. -/
structure Linked (start : Viewer) (pauses : Pauses) (asked : Answers) (job : String)
    (log : Except Fault Snapshot) (informed visit : Visit) : Prop where
  calls : visit.calls = informed.calls ++
    if informed.viewer.isDisplayed job || (informed.viewer.listedStatus job).isLive then []
    else [.snapshot job]
  viewer : visit.viewer =
    (informed.viewer.linked job).returned (start.sessions.length + 1) pauses.log asked log
  challenge : visit.viewer.state.challenge = informed.viewer.state.challenge
  summaries : visit.viewer.state.summaries =
    (visit.lists.drop informed.lists.length).getLast?.getD informed.viewer.state.summaries
  isLoading : visit.viewer.state.isLoading = false
  isLoadingList : visit.viewer.state.isLoadingList = false
  error : log ≠ .error .cancelled → visit.viewer.state.error =
    if informed.viewer.isDisplayed job || (informed.viewer.listedStatus job).isLive then
      informed.viewer.state.error
    else loadedError job log

theorem sameList_linked (viewer : Viewer) (job : String) : SameList viewer (viewer.linked job) := by
  have expanded : SameList viewer (viewer.dispatch .listExpanded) := .dispatch rfl
  exact expanded.trans (.toggle (by simp [ViewEvent.sparesList]))

theorem linked_announces (viewer : Viewer) (job : String) : (viewer.linked job).state =
    (viewer.state.reduce .listExpanded).hearing (saying none
      ((viewer.dispatch .listExpanded).toggleEvents job (viewer.listedStatus job)
        [.challengeLoadFinished])) := by
  rw [← dispatch_state]
  exact Announces.toggle job _ _

theorem isDisplayed_expanded (viewer : Viewer) (job : String) :
    (viewer.dispatch .listExpanded).isDisplayed job = viewer.isDisplayed job := by
  have alike : Alike viewer (viewer.dispatch .listExpanded) := .dispatch rfl
  exact alike.isDisplayed

/-! ### Whether the list is still awaited -/

theorem isLoadingList_reduce {state : ViewState} {event : ViewEvent}
    (unasked : event ≠ .listLoadStarted) (settled : state.isLoadingList = false) :
    (state.reduce event).isLoadingList = false := by
  unfold ViewState.reduce
  split
  · cases event with
    | listLoadStarted => exact absurd rfl unasked
    | sessionOpened _ _ _ live => cases live <;> exact settled
    | listLoaded | listLoadFinished => rfl
    | _ => exact settled
  · exact settled

theorem linked_isLoadingList (job : String) (settled : viewer.state.isLoadingList = false) :
    (viewer.linked job).state.isLoadingList = false := by
  rw [linked_announces]
  refine List.foldlRecOn (motive := fun state : ViewState => state.isLoadingList = false) _ _
    settled fun state settled announcement member => isLoadingList_reduce ?_ settled
  obtain ⟨event, told, rfl⟩ := List.mem_map.mp member
  unfold toggleEvents at told
  split at told
  · rintro rfl
    simp at told
  · rintro rfl
    dsimp only at told
    split at told <;> simp at told

theorem loaded_isLoadingList {teller : Session} (plain : ∀ event ∈ teller.sequel,
    event = .challengeLoadFinished) (settled : viewer.state.isLoadingList = false) :
    (viewer.loaded session teller log).state.isLoadingList = false := by
  have told : Told (fun event => event != .listLoadStarted) viewer
      (viewer.loaded session teller log) := by
    refine .loaded_of_plain (fun event loads => ?_) rfl plain log
    cases event <;> first | rfl | cases loads
  exact told.keeps (motive := fun state => state.isLoadingList = false)
    (fun _ _ unasked settled => isLoadingList_reduce (by simpa using unasked) settled) settled

theorem Waiting.turn_isLoadingList {waiter : Session} {action : Action} {other : SessionId}
    (waiting : Waiting viewer session waiter) (own : action.session? = some other)
    (quiet : ∀ result, action ≠ .answer session result)
    (settled : viewer.state.isLoadingList = false) :
    (viewer.act answers action).state.isLoadingList = false := by
  by_cases same : other = session
  · subst same
    rw [waiting.idle own quiet, settled]
  · have older : other ≠ viewer.sessions.length := waiting.newest ▸ same
    have turned : viewer.act answers action = viewer ∨ _ :=
      waiting.coherent.act_of_halted_cases own fun _ located =>
        waiting.coherent.settled located older
    rcases turned with idle | ⟨teller, located, ⟨outcome, acted⟩ | ⟨next, result, acted⟩⟩
    · rw [idle, settled]
    · rw [acted]
      refine dispatchAll_induction (motive := fun after => after.state.isLoadingList = false) _ _
        (fun after event member settled => ?_) settled
      rw [dispatch_state]
      refine isLoadingList_reduce ?_ settled
      rintro rfl
      unfold Session.rest at member
      split at member
      · exact absurd ((waiting.belongs.sessions located).sequel _ member) (by simp)
      · cases member
    · have inactive : viewer.state.active ≠ some other := fun active =>
        older (waiting.coherent.front.active active)
      have told : Alike viewer (viewer.listAnswered result).1 := .listAnswered result
      rw [acted, listed, goOn_of_inactive (by rwa [told.active])]
      cases result <;> rfl

theorem Waiting.run_isLoadingList {waiter : Session} (waiting : Waiting viewer session waiter)
    (only : ∀ step ∈ turns, step.2.session?.isSome)
    (quiet : ∀ step ∈ turns, ∀ result, step.2 ≠ .answer session result)
    (settled : viewer.state.isLoadingList = false) :
    (viewer.run turns).state.isLoadingList = false := by
  induction turns generalizing viewer with
  | nil => exact settled
  | cons step rest ih =>
    obtain ⟨other, own⟩ := Option.isSome_iff_exists.mp (only step (by simp))
    obtain ⟨next, -⟩ :
        Waiting (viewer.act step.1 step.2) session waiter ∧ Still viewer _ :=
      waiting.turn own (quiet step (by simp))
    exact ih next (fun step member => only step (by simp [member]))
      (fun step member => quiet step (by simp [member]))
      (waiting.turn_isLoadingList own (quiet step (by simp)) settled)

/-! ### Opening without waiting -/

theorem linked_at_once (viewer : Viewer) (job : String)
    (atOnce : viewer.isDisplayed job || (viewer.listedStatus job).isLive) :
    (viewer.linked job).calls = viewer.calls ∧
    (viewer.linked job).state.isLoading = false ∧
    (viewer.linked job).state.error = viewer.state.error ∧
    (((viewer.linked job).session? (viewer.sessions.length + 1)).any fun session =>
      session.stage == .loading) = false := by
  have told := viewer.linked_announces job
  cases displayed : viewer.isDisplayed job with
  | true =>
    have onScreen := (viewer.isDisplayed_expanded job).trans displayed
    rw [toggleEvents, if_pos onScreen] at told
    refine ⟨?_, by rw [told]; rfl, by rw [told]; rfl, ?_⟩
    · rw [linked, toggle_of_displayed onScreen, dispatchAll_calls]
      exact stop_calls _
    · have missing : (viewer.linked job).session? (viewer.sessions.length + 1) = none := by
        rw [Option.eq_none_iff_forall_ne_some]
        intro session located
        have bound := (session?_bounds located).2
        rw [linked, toggle_of_displayed onScreen, dispatchAll_sessions, dispatch_sessions,
          stop_sessions_length] at bound
        exact Nat.not_succ_le_self _ bound
      rw [missing]
      rfl
  | false =>
    have hidden := (viewer.isDisplayed_expanded job).trans displayed
    have live : (viewer.listedStatus job).isLive := by simpa [displayed] using atOnce
    obtain ⟨plan, planned⟩ : ∃ plan,
        Plan.forStatus? viewer.config (viewer.listedStatus job) = some plan := by
      rw [Plan.forStatus?, if_pos live]
      cases viewer.config.transport <;> exact ⟨_, rfl⟩
    have ready : Plan.forStatus? (viewer.dispatch .listExpanded).config
        (viewer.listedStatus job) = some plan := planned
    rw [toggleEvents, if_neg (by simp [hidden]), ready] at told
    refine ⟨?_, by rw [told]; rfl, by rw [told]; rfl, ?_⟩
    · rw [linked, toggle_of_planned hidden ready, dispatchAll_calls]
      exact stop_calls _
    · have opened : ((viewer.dispatch .listExpanded).stop.takeOver job (viewer.listedStatus job)
          [.challengeLoadFinished]).session? (viewer.sessions.length + 1) =
            some ((viewer.dispatch .listExpanded).stop.newcomer job (viewer.listedStatus job)
              [.challengeLoadFinished]) := by
        rw [session?_takeOver, stop_sessions_length]
        exact if_pos rfl
      rw [linked, toggle_of_planned hidden ready, session?_congr _ (dispatchAll_sessions _ _),
        opened]
      simp [newcomer, ready]

/-! ### Opening with a single load -/

theorem waiting_of_linked (orderly : Orderly viewer) (job : String)
    (hidden : viewer.isDisplayed job = false)
    (settled : (viewer.listedStatus job).isLive = false) :
    ∃ waiter : Session, waiter.job = job ∧ waiter.sequel = [.challengeLoadFinished] ∧
      Waiting (viewer.linked job) (viewer.sessions.length + 1) waiter ∧
      (viewer.linked job).calls = viewer.calls ++ [.snapshot job] := by
  have expanded : Orderly (viewer.dispatch .listExpanded) := orderly.alike (.dispatch rfl)
  have toggled : Orderly (viewer.linked job) := expanded.toggle job (viewer.listedStatus job)
  have unplanned (config : ViewerConfig) :
      Plan.forStatus? config (viewer.listedStatus job) = none := by
    simp [Plan.forStatus?, settled]
  obtain ⟨waiting, calls, -⟩ := Waiting.of_toggle
    ((viewer.isDisplayed_expanded job).trans hidden) (unplanned _) toggled.coherent toggled.belongs
  exact ⟨_, rfl, by simp [newcomer, unplanned], waiting, calls⟩

theorem loaded_summaries {teller : Session} (plain : ∀ event ∈ teller.sequel,
    event = .challengeLoadFinished) :
    (viewer.loaded session teller log).state.summaries = viewer.state.summaries := by
  have told : Told ViewEvent.sparesList viewer (viewer.loaded session teller log) := by
    refine .loaded_of_plain (fun event loads => ?_) rfl plain log
    cases event <;> first | rfl | cases loads
  exact told.keeps (motive := fun state => state.summaries = viewer.state.summaries)
    (fun state _ spares same => (state.reduce_of_sparesList spares).2.trans same) rfl

namespace Linked

theorem of_at_once {informed : Visit} {pauses : Pauses}
    (length : informed.viewer.sessions.length = start.sessions.length)
    (awaited : informed.viewer.state.isLoadingList = false)
    (atOnce : informed.viewer.isDisplayed job || (informed.viewer.listedStatus job).isLive) :
    Linked start pauses asked job log informed ((informed.opens job).returns
      (informed.viewer.sessions.length + 1) pauses.log asked log) := by
  obtain ⟨calls, isLoading, error, unloaded⟩ := informed.viewer.linked_at_once job atOnce
  have same := informed.viewer.sameList_linked job
  have returned : (informed.opens job).returns (informed.viewer.sessions.length + 1) pauses.log
      asked log = informed.opens job := by
    rw [Visit.returns]
    exact if_neg (by rw [Bool.not_eq_true]; exact unloaded)
  rw [returned]
  exact {
    calls := by
      rw [if_pos atOnce, List.append_nil]
      exact Visit.calls_of_silent calls
    viewer := by
      rw [← length, Viewer.returned, if_neg (by rw [Bool.not_eq_true]; exact unloaded)]
      rfl
    challenge := same.shown
    summaries := by
      have none : (informed.opens job).lists.drop informed.lists.length = [] := List.drop_length
      rw [none]
      exact same.summaries
    isLoading
    isLoadingList := linked_isLoadingList job awaited
    error := fun _ => error.trans (if_pos atOnce).symm }

theorem of_load {informed : Visit} {pauses : Pauses} (orderly : Orderly informed.viewer)
    (length : informed.viewer.sessions.length = start.sessions.length)
    (awaited : informed.viewer.state.isLoadingList = false)
    (hidden : informed.viewer.isDisplayed job = false)
    (settled : (informed.viewer.listedStatus job).isLive = false)
    (only : ∀ step ∈ pauses.log, step.2.session?.isSome)
    (quiet : ∀ step ∈ pauses.log, ∀ other, step.2 ≠ .answer (start.sessions.length + 1) other) :
    Linked start pauses asked job log informed ((informed.opens job).returns
      (informed.viewer.sessions.length + 1) pauses.log asked log) := by
  obtain ⟨waiter, jobEq, sequel, waiting, calls⟩ := waiting_of_linked orderly job hidden settled
  rw [← length] at quiet
  obtain ⟨last, -⟩ := waiting.run only quiet
  have plain := (last.belongs.sessions last.found).sequel
  have loads : (((informed.viewer.linked job).session? (informed.viewer.sessions.length + 1)).any
      fun session => session.stage == .loading) = true := by simp [waiting.found, waiting.loading]
  have returned : (informed.opens job).returns (informed.viewer.sessions.length + 1) pauses.log
      asked log = ((informed.opens job).waits pauses.log).does fun viewer =>
        viewer.act asked (.answer (informed.viewer.sessions.length + 1) log) := by
    rw [Visit.returns]
    exact if_pos loads
  have acted : ((informed.viewer.linked job).run pauses.log).act asked
      (.answer (informed.viewer.sessions.length + 1) log) = _ := last.act_answer asked log
  have final : ((informed.opens job).returns (informed.viewer.sessions.length + 1) pauses.log
      asked log).viewer = ((informed.viewer.linked job).run pauses.log).loaded
        (informed.viewer.sessions.length + 1) waiter log := by
    rw [returned]
    exact acted
  have same := informed.viewer.sameList_linked job
  exact {
    calls := by
      have silent := (congrArg Viewer.calls acted).trans (Still.loaded plain).calls
      have asked : (informed.opens job).calls = informed.calls ++ [.snapshot job] :=
        Visit.calls_of_asked calls
      rw [returned, hidden, settled]
      exact (Visit.calls_of_silent silent).trans asked
    viewer := by
      rw [← length, Visit.returns_viewer]
      rfl
    challenge := by
      have told : Told ViewEvent.isOfSession (informed.viewer.linked job) _ :=
        .of_turns waiting.belongs only
      have answered : Told ViewEvent.isOfSession ((informed.viewer.linked job).run pauses.log)
          (Viewer.act _ asked (.answer (informed.viewer.sessions.length + 1) log)) :=
        .of_turn last.belongs rfl
      rw [final, ← acted]
      exact answered.challenge.trans (told.challenge.trans same.shown)
    summaries := by
      have brought : ((informed.opens job).waits pauses.log).lists.drop informed.lists.length =
          (informed.viewer.linked job).listsOfRun pauses.log := List.drop_left
      rw [final, loaded_summaries plain, run_summaries, same.summaries, ← brought, returned]
      rfl
    isLoading := by
      rw [final, loaded_eq, sequel]
      rfl
    isLoadingList := by
      rw [final]
      exact loaded_isLoadingList plain
        (waiting.run_isLoadingList only quiet (linked_isLoadingList job awaited))
    error := fun heard => by
      obtain ⟨-, -, error, -⟩ := last.answered asked heard
      rw [final, ← acted, hidden, settled, error, jobEq]
      rfl }

end Linked

/-! ## The request as a whole -/

/-- A request to enter a challenge, whatever sessions do while it waits. Without a name it only
complains. Otherwise it asks for the challenge, for the list once the challenge has come, and for
what its job takes once it has been told about the list, which is also where it looks up the
status of the job. -/
theorem request_enters_challenge (reached : start.Reachable) (pauses : Pauses)
    (only : ∀ step ∈ pauses.turns, step.2.session?.isSome)
    (quiet : ∀ step ∈ pauses.log, ∀ other, step.2 ≠ .answer (start.sessions.length + 1) other)
    (answers asked : Answers) (challenge target : Option String) (log : Except Fault Snapshot) :
    let visit := Visit.enter start answers challenge target pauses asked log
    (challenge.getD "" = "" → visit.calls = [] ∧
      visit.viewer =
        { start with store := start.store.dispatch (.failed "no challenge id given") } ∧
      visit.viewer.state = { start.state with error := some "no challenge id given" }) ∧
    (∀ id, challenge = some id → id ≠ "" →
      (∀ fault, answers.challenge id = .error fault → Lost start id fault visit) ∧
      ∀ found, answers.challenge id = .ok found →
        let informed := Visit.informed start answers pauses id found
        Informed start id found (answers.list id) informed ∧
        (target = none → Informed start id found (answers.list id) visit ∧
          visit.viewer.state.isLoading = false) ∧
        ∀ job, target = some job → Linked start pauses asked job log informed visit) ∧
    (Visit.enter start answers challenge target {} asked log).viewer =
      (start.act answers (.enter challenge target)).returned (start.sessions.length + 1) [] asked
        log := by
  intro visit
  have orderly : Orderly start := .of_reachable reached
  refine ⟨fun empty => ?_, ?_, enter_viewer start answers asked target log challenge⟩
  · have unnamed : challenge.filter (· ≠ "") = none := by cases challenge <;> simp_all
    have whole : visit = _ := Visit.enter_of_unnamed start answers asked target log pauses unnamed
    rw [whole]
    exact ⟨Visit.calls_of_silent rfl, rfl, rfl⟩
  rintro id rfl named
  have given : (some id).filter (· ≠ "") = some id := by simp [named]
  refine ⟨fun fault failed => ?_, fun found answered => ?_⟩
  · have whole : visit = _ :=
      Visit.enter_of_error start answers asked target log pauses given failed
    rw [whole]
    exact lost_of_error orderly only id
  · intro informed
    obtain ⟨told, settled, length⟩ := Informed.of_ok orderly only answers id found
    refine ⟨told, ?_, ?_⟩
    · rintro rfl
      have whole : visit = _ := Visit.enter_of_ok start answers asked log pauses given answered
      rw [whole]
      exact ⟨told.finishes, rfl⟩
    · rintro job rfl
      have whole : visit = _ :=
        Visit.enter_of_target start answers asked log pauses job given answered
      rw [whole]
      cases displayed : informed.viewer.isDisplayed job with
      | true => exact .of_at_once length told.isLoadingList (by simp [informed, displayed])
      | false =>
        cases live : (informed.viewer.listedStatus job).isLive with
        | true => exact .of_at_once length told.isLoadingList (by simp [live])
        | false =>
          exact .of_load settled length told.isLoadingList displayed live
            (fun step member => only step (by simp [Pauses.turns, member])) quiet

theorem requests_amid_stream :
    let start := Viewer.run {} [(plainAnswers, .enter (some "c1") (some "c1")),
      (plainAnswers, .start 1), (plainAnswers, .openStream 1 (.ok 7))]
    let pauses : Pauses := {
      challenge := [(.bare, .receive 1 (some (.ok ⟨"more", .building, false⟩)))]
      list := [(plainAnswers, .receive 1 (some (.ok ⟨"done", .success, true⟩)))] }
    let listless : Answers := { plainAnswers with list := fun _ => .error (.transport "reset") }
    let unknown : Answers := { plainAnswers with challenge := fun id => .error (.notFound id) }
    let enter (answers : Answers) (challenge target : Option String) : Visit :=
      .enter start answers challenge target pauses .bare
        (.ok { content := "log", status := .success })
    let linked := enter listless (some "c2") (some "j")
    (linked.calls = [.challenge "c2", .list "c2", .snapshot "j"] ∧
      linked.viewer.state.challenge.map Challenge.id = some "c2" ∧
      linked.viewer.state.summaries = plainList "c1" ∧
      linked.viewer.state.isLoading = false ∧ linked.viewer.state.error = none) ∧
    (enter listless (some "c2") none).viewer.state.error = some "failed to load build logs" ∧
    (enter unknown (some "c9") (some "j")).viewer.state.error = some "challenge not found" ∧
    (enter plainAnswers (some "") none).calls = [] := by
  intro start pauses listless unknown enter linked
  have reached : start.Reachable := ⟨{}, _, by decide, rfl⟩
  have entered (answers : Answers) (challenge target : Option String) :=
    request_enters_challenge reached pauses (by decide) (by simp [pauses]) answers .bare challenge
      target (.ok { content := "log", status := .success })
  obtain ⟨informed, -, opens⟩ :=
    ((entered listless (some "c2") (some "j")).2.1 "c2" rfl (by decide)).2 _ rfl
  have opened := opens "j" rfl
  refine ⟨⟨opened.calls.trans (by rw [informed.calls]; decide), ?_, ?_, opened.isLoading, ?_⟩,
    ?_, ?_, ?_⟩
  · rw [opened.challenge, informed.challenge]
    rfl
  · rw [opened.summaries, informed.summaries]
    decide
  · rw [opened.error (by simp)]
    decide
  · obtain ⟨-, arrives, -⟩ :=
      ((entered listless (some "c2") none).2.1 "c2" rfl (by decide)).2 _ rfl
    exact (arrives rfl).1.error
  · exact (((entered unknown (some "c9") (some "j")).2.1 "c9" rfl (by decide)).1 _ rfl).error
  · exact ((entered plainAnswers (some "") none).1 rfl).1

end BuildWatch.Viewer
