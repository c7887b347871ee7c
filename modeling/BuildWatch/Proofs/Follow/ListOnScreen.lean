import BuildWatch.Proofs.Follow.Lists

namespace BuildWatch

theorem Call.list?_eq_some {call : Call} {name : String} :
    call.list? = some name ↔ call = .list name := by
  cases call <;> simp [list?]

def Session.awaits (challenge : String) (session : Session) : Bool :=
  session.isListing && session.challenge == some challenge

namespace Viewer

/-- What an action enters: the name it gives, and the challenge that the platform has for it. -/
def entering? (answers : Answers) : Action → Option (String × Challenge)
  | .enter challenge _ =>
    (challenge.filter (· ≠ "")).bind fun name =>
      (answers.challenge name).toOption.map fun found => (name, found)
  | _ => none

/-- Whether a session that was opened under another challenge may still change the list. -/
def hasStranger (viewer : Viewer) (challenge : String) : Bool :=
  viewer.sessions.any fun session =>
    session.affectsList && session.challenge.any (· ≠ challenge)

/-- The list of a challenge that the platform gives along with an action, whether the action has
just asked for it or a session has waited for it. -/
def listBrought (challenge : String) (viewer : Viewer) (answers : Answers) (action : Action) :
    Option (List Summary) :=
  match action.listed? with
  | some (id, result) =>
    if (viewer.session? id).any (Session.awaits challenge) then result.toOption else none
  | none =>
    if .list challenge ∈ (viewer.act answers action).calls.drop viewer.calls.length then
      answers.comes action.session?.isSome challenge
    else none

def listsBrought (challenge : String) : Viewer → List (Answers × Action) → List (List Summary) :=
  gathered (fun viewer step => viewer.act step.1 step.2) fun viewer step =>
    (listBrought challenge viewer step.1 step.2).toList

structure Keeps (challenge : String) (brought : Option (List Summary)) (viewer after : Viewer) :
    Prop where
  belongs : after.Belongs (· = challenge)
  stays : viewer.state.challenge.isSome → after.state.challenge.isSome
  asks : ∃ calls, after.calls = viewer.calls ++ calls ∧
    ∀ name, .list name ∈ calls → name = challenge
  shows : after.state.summaries = brought.getD viewer.state.summaries

variable {may : String → Prop} {challenge : String} {comes : String → Option (List Summary)}
  {answers : Answers} {action : Action} {viewer after : Viewer}

/-! ## Steps -/

theorem Within.act (belongs : viewer.Belongs may) (ordinary : action.isOrdinary)
    (allowed : ∀ entry ∈ entering? answers action, may entry.1 ∧ may entry.2.id)
    (unlisted : action.listed? = none) :
    Within may (answers.comes action.session?.isSome) viewer (viewer.act answers action) := by
  cases own : action.session? with
  | some id => exact .turn belongs own unlisted
  | none =>
    cases action with
    | toggle | openJob => exact .toggle belongs (by simp)
    | enter challenge target =>
      refine .enter belongs challenge target fun name found given answered => ?_
      refine allowed (name, found) ?_
      rw [Option.mem_def, entering?, given, Option.bind_some, answered]
      rfl
    | refresh => exact .refresh belongs
    | toggleList => exact .dispatch belongs rfl
    | cancel => exact .cancel belongs
    | join => exact .join belongs
    | drop =>
      simp only [Viewer.act]
      split
      · exact .refl belongs
      · exact .stop belongs
    | setViewport => exact .of_same belongs ⟨rfl, rfl, rfl⟩ rfl belongs.sessions
    | publish | setChallenge => cases ordinary
    | _ => simp [Action.session?] at own

theorem Belongs.listAnswered (belongs : viewer.Belongs may)
    (result : Except Fault (List Summary)) : (viewer.listAnswered result).1.Belongs may := by
  cases result <;> exact ⟨belongs.shown, belongs.entered, belongs.sessions⟩

theorem Within.goOn_of_listing {id : SessionId} {session : Session} {next : Option Nat}
    (belongs : viewer.Belongs may) (found : viewer.session? id = some session)
    (listing : session.stage = .listing next) (result : Except Fault (List Summary)) :
    Within may comes (viewer.listAnswered result).1 (viewer.listed id next result) := by
  have kept : (viewer.listAnswered result).1.session? id = some session :=
    (Alike.listAnswered result).session?.trans found
  have ongoing : session.isOver = false := by simp [Session.isOver, listing]
  exact .goOn (belongs.listAnswered result) kept ongoing next

theorem Belongs.act (belongs : viewer.Belongs may) (ordinary : action.isOrdinary)
    (allowed : ∀ entry ∈ entering? answers action, may entry.1 ∧ may entry.2.id) :
    (viewer.act answers action).Belongs may := by
  cases answer : action.listed? with
  | none => exact (Within.act belongs ordinary allowed answer).belongs
  | some listed =>
    cases action with
    | listed id result =>
      refine turn_cases belongs fun session found => ?_
      split
      · rename_i next listing
        have went : Within may (fun _ => none) _ (viewer.listed id next result) :=
          .goOn_of_listing belongs found listing result
        exact went.belongs
      · exact belongs
    | _ => cases answer

theorem listAfterCalls_of_only {calls : List Call} (shown : List Summary)
    (only : ∀ name ∈ calls.filterMap Call.list?, name = challenge) :
    listAfterCalls comes calls shown =
      (if .list challenge ∈ calls then comes challenge else none).getD shown := by
  induction calls generalizing shown with
  | nil => rfl
  | cons call rest ih =>
    cases listing : call.list? with
    | none =>
      have differs : call ≠ .list challenge := fun same => by simp [same, Call.list?] at listing
      rw [List.filterMap_cons_none listing] at only
      have restEq := ih shown only
      simpa [listAfterCalls, listing, differs.symm] using restEq
    | some name =>
      rw [List.filterMap_cons_some listing, List.forall_mem_cons] at only
      obtain ⟨rfl, only⟩ := only
      have restEq := ih ((comes name).getD shown) only
      obtain rfl := Call.list?_eq_some.mp listing
      -- A list that comes twice in one action is the same list.
      have twice : (if .list name ∈ rest then comes name else none).getD
          ((comes name).getD shown) = (comes name).getD shown := by
        split <;> cases comes name <;> rfl
      simpa [listAfterCalls, Call.list?] using restEq.trans twice

theorem Within.keeps (within : Within (· = challenge) comes viewer after) :
    Keeps challenge (if .list challenge ∈ after.calls.drop viewer.calls.length then comes challenge
      else none) viewer after := by
  obtain ⟨belongs, stays, calls, callsEq, only, summaries⟩ := within
  refine ⟨belongs, stays, ⟨calls, callsEq, fun name member => ?_⟩, ?_⟩
  · exact only name (List.mem_filterMap.mpr ⟨_, member, rfl⟩)
  · rw [summaries, listAfterCalls_of_only _ only, callsEq, List.drop_left]

namespace Keeps

theorem refl (belongs : viewer.Belongs (· = challenge)) : Keeps challenge none viewer viewer :=
  ⟨belongs, fun shown => shown, ⟨[], by simp, by simp⟩, rfl⟩

theorem trans {middle : Viewer} {first second : Option (List Summary)}
    (left : Keeps challenge first viewer middle) (right : Keeps challenge second middle after) :
    Keeps challenge (second.or first) viewer after := by
  obtain ⟨-, stays, ⟨calls, asked, only⟩, shows⟩ := left
  obtain ⟨belongs, stays', ⟨calls', asked', only'⟩, shows'⟩ := right
  refine ⟨belongs, fun shown => stays' (stays shown), ⟨calls ++ calls', ?_, ?_⟩, ?_⟩
  · rw [asked', asked, List.append_assoc]
  · intro name member
    exact (List.mem_append.mp member).elim (only name) (only' name)
  · rw [shows', shows]
    cases second <;> rfl

theorem listAnswered (belongs : viewer.Belongs (· = challenge))
    (result : Except Fault (List Summary)) :
    Keeps challenge result.toOption viewer (viewer.listAnswered result).1 := by
  have told : (viewer.listAnswered result).1.Belongs (· = challenge) := belongs.listAnswered result
  cases result <;> exact ⟨told, fun shown => shown, ⟨[], by simp, by simp⟩, rfl⟩

theorem listed {id : SessionId} (belongs : viewer.Belongs (· = challenge))
    (result : Except Fault (List Summary)) :
    Keeps challenge (listBrought challenge viewer answers (.listed id result)) viewer
      (viewer.act answers (.listed id result)) := by
  rw [listBrought, Viewer.act, turn]
  simp only [Action.listed?]
  cases found : viewer.session? id with
  | none => exact .refl belongs
  | some session =>
    have held := belongs.sessions found
    dsimp only [Option.any_some]
    cases waits : session.isListing with
    | true =>
      obtain ⟨next, listing⟩ := Session.isListing_iff.mp waits
      obtain ⟨name, known⟩ := Option.isSome_iff_exists.mp (held.known waits)
      have same : name = challenge :=
        held.challenge (by simp [Session.affectsList, waits]) name known
      rw [if_pos (by simp [Session.awaits, waits, known, same]), listing]
      have answered : Keeps challenge result.toOption viewer (viewer.listAnswered result).1 :=
        .listAnswered belongs result
      have went : Within (· = challenge) (fun _ => none) _ (viewer.listed id next result) :=
        .goOn_of_listing belongs found listing result
      have kept := went.keeps
      rw [ite_self] at kept
      exact answered.trans kept
    | false =>
      rw [if_neg (by simp [Session.awaits, waits])]
      split
      · rename_i next listing
        exact absurd (Session.isListing_iff.mpr ⟨next, listing⟩) (by simp [waits])
      · exact .refl belongs

theorem act (belongs : viewer.Belongs (· = challenge)) (ordinary : action.isOrdinary)
    (stays : ∀ entry ∈ entering? answers action, entry.1 = challenge ∧ entry.2.id = challenge) :
    Keeps challenge (listBrought challenge viewer answers action) viewer
      (viewer.act answers action) := by
  cases answer : action.listed? with
  | none =>
    have within : Within (· = challenge) (answers.comes action.session?.isSome) viewer _ :=
      .act belongs ordinary stays answer
    simpa only [listBrought, answer] using within.keeps
  | some listed =>
    cases action with
    | listed id result => exact .listed belongs result
    | _ => cases answer

/-! ## Runs -/

theorem run {steps : List (Answers × Action)} (belongs : viewer.Belongs (· = challenge))
    (ordinary : ∀ step ∈ steps, step.2.isOrdinary)
    (stays : ∀ step ∈ steps, ∀ entry ∈ entering? step.1 step.2,
      entry.1 = challenge ∧ entry.2.id = challenge) :
    Keeps challenge (listsBrought challenge viewer steps).getLast? viewer (viewer.run steps) := by
  induction steps generalizing viewer with
  | nil => exact .refl belongs
  | cons step rest ih =>
    have first : Keeps challenge (listBrought challenge viewer step.1 step.2) viewer
        (viewer.act step.1 step.2) :=
      .act belongs (ordinary step (by simp)) (stays step (by simp))
    have later := ih first.belongs (fun step member => ordinary step (by simp [member]))
      (fun step member => stays step (by simp [member]))
    have last : (listsBrought challenge viewer (step :: rest)).getLast? =
        (listsBrought challenge (viewer.act step.1 step.2) rest).getLast?.or
          (listBrought challenge viewer step.1 step.2) := by
      rw [listsBrought, gathered, List.getLast?_append]
      cases listBrought challenge viewer step.1 step.2 <;> rfl
    rw [run_cons, last]
    exact first.trans later

end Keeps

theorem Belongs.run {steps : List (Answers × Action)} (belongs : viewer.Belongs fun _ => True)
    (ordinary : ∀ step ∈ steps, step.2.isOrdinary) :
    (viewer.run steps).Belongs fun _ => True := by
  induction steps generalizing viewer with
  | nil => exact belongs
  | cons step rest ih =>
    have next : (viewer.act step.1 step.2).Belongs fun _ => True :=
      belongs.act (ordinary step (by simp)) (by simp)
    exact ih next fun step member => ordinary step (by simp [member])

theorem belongs_start (config : ViewerConfig) : ({ config } : Viewer).Belongs may where
  shown := by simp [state]
  entered := by simp
  sessions {id session} found := by cases id <;> simp [session?] at found

theorem Belongs.act_of_any (belongs : viewer.Belongs fun _ => True) :
    (viewer.act answers action).Belongs fun _ => True := by
  cases action with
  | publish | setChallenge =>
    exact ⟨fun _ _ => trivial, fun _ _ => trivial, fun found => belongs.sessions found⟩
  | _ => exact belongs.act rfl (by simp)

theorem Belongs.run_of_any (belongs : viewer.Belongs fun _ => True)
    (steps : List (Answers × Action)) : (viewer.run steps).Belongs fun _ => True :=
  List.foldlRecOn steps _ belongs fun _ belongs _ _ => belongs.act_of_any

theorem Arises.belongs (arises : viewer.Arises) : viewer.Belongs fun _ => True := by
  obtain ⟨config, other, steps, -, reached⟩ := arises
  obtain ⟨shown, entered, sessions⟩ : Belongs (fun _ => True) { viewer with config } :=
    reached ▸ (belongs_start other).run_of_any steps
  exact ⟨shown, entered, fun found => sessions found⟩

/-! ## Entering a challenge -/

section
variable (viewer) (target : Option String) {found : Challenge} (named : challenge ≠ "")
  (answered : answers.challenge challenge = .ok found)
include named answered

theorem enter_shows :
    (viewer.enter answers (some challenge) target).challenge = some challenge ∧
    (viewer.enter answers (some challenge) target).state.challenge = some found ∧
    (viewer.enter answers (some challenge) target).state.summaries =
      listAfter answers challenge viewer.state.summaries := by
  have given : (some challenge).filter (· ≠ "") = some challenge := by simp [named]
  have listed : ((viewer.introduced challenge found).showList answers challenge).challenge =
        some challenge ∧
      ((viewer.introduced challenge found).showList answers challenge).state.challenge =
        some found := by
    unfold showList loadList listAnswered
    cases answers.list challenge <;> exact ⟨rfl, rfl⟩
  have same : SameList ((viewer.introduced challenge found).showList answers challenge)
      (viewer.enter answers (some challenge) target) := by
    cases target with
    | none =>
      simp only [enter, given, answered]
      exact .dispatch rfl
    | some job =>
      rw [enter_eq given answered]
      exact (SameList.dispatch rfl).trans (.toggle (by simp [ViewEvent.sparesList]))
  refine ⟨same.entered.trans listed.1, same.shown.trans listed.2, same.summaries.trans ?_⟩
  exact showList_summaries _ answers challenge

theorem belongs_of_enter (belongs : viewer.Belongs fun _ => True) (same : found.id = challenge)
    (free : (viewer.enter answers (some challenge) target).hasStranger challenge = false) :
    (viewer.enter answers (some challenge) target).Belongs (· = challenge) := by
  -- The sessions there have been keep their challenges, so nothing but `free` speaks for them.
  obtain ⟨entered, shown, -⟩ := enter_shows viewer target named answered
  have after : (viewer.act answers (.enter (some challenge) target)).Belongs fun _ => True :=
    belongs.act rfl (by simp)
  refine ⟨by simp [shown, same], by simp [entered], fun {id session} located => ?_⟩
  have held := after.sessions located
  refine ⟨fun affects name known => ?_, held.known, held.sequel⟩
  have familiar := List.any_eq_false.mp free session (session?_mem located)
  simpa [affects, Option.mem_def.mp known] using familiar

end

theorem list_belongs_to_challenge (config : ViewerConfig) (before after : List (Answers × Action))
    (target : Option String) {found : Challenge}
    (ordinary : ∀ step ∈ before ++ after, step.2.isOrdinary) (named : challenge ≠ "")
    (answered : answers.challenge challenge = .ok found) (same : found.id = challenge)
    (free : ((({ config } : Viewer).run before).act answers
      (.enter (some challenge) target)).hasStranger challenge = false)
    (stays : ∀ step ∈ after, ∀ entry ∈ entering? step.1 step.2,
      entry.1 = challenge ∧ entry.2.id = challenge) :
    let start := ({ config } : Viewer).run before
    let entered := start.act answers (.enter (some challenge) target)
    let seen := entered.run after
    seen.state.challenge.map Challenge.id = some challenge ∧
    (∃ calls, seen.calls = entered.calls ++ calls ∧
      ∀ name, .list name ∈ calls → name = challenge) ∧
    seen.state.summaries =
      ((answers.list challenge).toOption.toList ++
        listsBrought challenge entered after).getLast?.getD start.state.summaries := by
  intro start entered seen
  have began : start.Belongs fun _ => True :=
    (belongs_start config).run fun step member => ordinary step (by simp [member])
  have belongs : entered.Belongs (· = challenge) :=
    belongs_of_enter start target named answered began same free
  have keeps : Keeps challenge (listsBrought challenge entered after).getLast? entered seen :=
    .run belongs (fun step member => ordinary step (by simp [member])) stays
  obtain ⟨-, shown, summaries⟩ := enter_shows start target named answered
  refine ⟨?_, keeps.asks, ?_⟩
  · obtain ⟨still, present⟩ := Option.isSome_iff_exists.mp
      (keeps.stays (Option.isSome_iff_exists.mpr ⟨found, shown⟩))
    have kept := keeps.belongs.shown still present
    rw [present, Option.map_some, kept]
  · have first : entered.state.summaries =
        (answers.list challenge).toOption.getD start.state.summaries := summaries
    rw [keeps.shows, first, List.getLast?_append]
    cases (listsBrought challenge entered after).getLast? <;>
      cases (answers.list challenge).toOption <;> rfl

def plainList (challenge : String) : List Summary :=
  [{ job := challenge, challenge, status := .building, created := none, completed := none }]

def plainAnswers : Answers where
  list challenge := .ok (plainList challenge)
  challenge id := .ok { id, name := id, genre := "", points := 0, requiresInstance := false }

theorem list_belongs_once_stranger_stopped :
    let start := Viewer.run {} [(plainAnswers, .enter (some "c1") (some "c1")),
      (plainAnswers, .start 1), (plainAnswers, .openStream 1 (.ok 7))]
    let entered := start.act plainAnswers (.enter (some "c2") (some "c2"))
    let after : List (Answers × Action) := [(plainAnswers, .start 2),
      (plainAnswers, .receive 1 (some (.ok ⟨"late", .success, true⟩))),
      (plainAnswers, .openStream 2 (.ok 8)),
      (.bare, .receive 2 (some (.ok ⟨"done", .success, true⟩)))]
    (entered.run after).state.challenge.map Challenge.id = some "c2" ∧
    (∃ calls, (entered.run after).calls = entered.calls ++ calls ∧
      ∀ name, .list name ∈ calls → name = "c2") ∧
    (entered.run after).state.summaries =
      ([plainList "c2"] ++ [[]]).getLast?.getD start.state.summaries :=
  list_belongs_to_challenge {} [(plainAnswers, .enter (some "c1") (some "c1")),
      (plainAnswers, .start 1), (plainAnswers, .openStream 1 (.ok 7))]
    [(plainAnswers, .start 2), (plainAnswers, .receive 1 (some (.ok ⟨"late", .success, true⟩))),
      (plainAnswers, .openStream 2 (.ok 8)),
      (.bare, .receive 2 (some (.ok ⟨"done", .success, true⟩)))]
    (some "c2") (by decide) (by decide) rfl rfl (by decide) (by simp [entering?])

/-- A session that follows a job of one challenge shows the list of that challenge when another one
has been entered. -/
theorem stranger_replaces_list :
    let entered := Viewer.run {} [(plainAnswers, .enter (some "c1") (some "c1")),
      (plainAnswers, .start 1), (plainAnswers, .openStream 1 (.ok 7)),
      (plainAnswers, .enter (some "c2") none)]
    let after := entered.act plainAnswers (.receive 1 (some (.ok ⟨"done", .success, true⟩)))
    (entered.state.challenge.map Challenge.id = some "c2" ∧
      entered.state.summaries = plainList "c2") ∧
    after.state.challenge.map Challenge.id = some "c2" ∧
      after.state.summaries = plainList "c1" ∧
      after.calls = entered.calls ++ [.list "c1"] ∧ plainList "c1" ≠ plainList "c2" := by
  decide

end Viewer

end BuildWatch
