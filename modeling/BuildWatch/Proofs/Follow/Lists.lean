import BuildWatch.Proofs.Follow.Opening

namespace BuildWatch

def Call.list? : Call → Option String
  | .list name => some name
  | _ => none

def ViewEvent.sparesList : ViewEvent → Bool
  | challengeLoaded _ | listLoaded _ => false
  | _ => true

theorem ViewState.reduce_of_sparesList (state : ViewState) {event : ViewEvent}
    (spares : event.sparesList) : (state.reduce event).challenge = state.challenge ∧
      (state.reduce event).summaries = state.summaries := by
  unfold reduce
  split
  · cases event with
    | challengeLoaded | listLoaded => cases spares
    | sessionOpened _ _ _ live => cases live <;> exact ⟨rfl, rfl⟩
    | _ => exact ⟨rfl, rfl⟩
  · exact ⟨rfl, rfl⟩

def Action.listed? : Action → Option (SessionId × Except Fault (List Summary))
  | .listed id result => some (id, result)
  | _ => none

def Action.isOrdinary : Action → Bool
  | .publish _ | .setChallenge _ => false
  | _ => true

theorem Action.isOrdinary_of_session {action : Action} {id : SessionId}
    (own : action.session? = some id) : action.isOrdinary := by
  cases action <;> first | rfl | simp [session?] at own

theorem Action.isProper_of_ordinary {action : Action} (ordinary : action.isOrdinary) :
    action.isProper := by
  cases action <;> first | rfl | cases ordinary

namespace Session

def isListing (session : Session) : Bool :=
  match session.stage with
  | .listing _ => true
  | _ => false

theorem isListing_iff {session : Session} :
    session.isListing ↔ ∃ next, session.stage = .listing next := by
  unfold isListing
  split <;> simp_all

/-- Whether a session may still change the list. One that has been stopped asks for no more, but a
list it has asked for may be on its way. -/
def affectsList (session : Session) : Bool :=
  session.isRunning || session.isListing

structure Belongs (may : String → Prop) (session : Session) : Prop where
  challenge : session.affectsList → ∀ challenge ∈ session.challenge, may challenge
  known : session.isListing → session.challenge.isSome
  sequel : ∀ event ∈ session.sequel, event = .challengeLoadFinished

namespace Belongs

variable {may : String → Prop} {session : Session} {stage : Stage}

theorem listing (belongs : session.Belongs may) (running : session.isRunning)
    (known : session.challenge.isSome) (next : Option Nat) :
    { session with stage := .listing next }.Belongs may where
  challenge _ := belongs.challenge (by simp [affectsList, running])
  known _ := known
  sequel := belongs.sequel

theorem restage (belongs : session.Belongs may) (ongoing : session.isOver = false)
    (settled : ∀ next, stage ≠ .listing next) : { session with stage }.Belongs may := by
  have unlisted : ({ session with stage } : Session).isListing = false :=
    Bool.eq_false_iff.mpr fun listing =>
      (isListing_iff.mp listing).elim fun next same => settled next same
  refine ⟨fun affects => belongs.challenge ?_, fun listing => ?_, belongs.sequel⟩
  · rw [affectsList, unlisted, Bool.or_false, isRunning_iff] at affects
    have running : session.isRunning := isRunning_iff.mpr ⟨affects.1, ongoing⟩
    simp [affectsList, running]
  · rw [unlisted] at listing
    cases listing

theorem cancel (belongs : session.Belongs may) :
    { session with isCancelled := true }.Belongs may where
  challenge affects := by
    have listing : session.isListing := by simpa [affectsList, isRunning, isListing] using affects
    exact belongs.challenge (by simp [affectsList, listing])
  known := belongs.known
  sequel := belongs.sequel

end Belongs

end Session

def Answers.comes (answers : Answers) (bySession : Bool) (challenge : String) :
    Option (List Summary) :=
  if bySession && answers.delaysList then none else (answers.list challenge).toOption

namespace Viewer

/-! ## The challenge and its list -/

structure SameList (viewer after : Viewer) : Prop where
  entered : after.challenge = viewer.challenge
  shown : after.state.challenge = viewer.state.challenge
  summaries : after.state.summaries = viewer.state.summaries

namespace SameList

variable {viewer : Viewer} {events : List ViewEvent}

theorem refl (viewer : Viewer) : SameList viewer viewer := ⟨rfl, rfl, rfl⟩

theorem trans {first middle last : Viewer} (left : SameList first middle)
    (right : SameList middle last) : SameList first last :=
  ⟨right.entered.trans left.entered, right.shown.trans left.shown,
    right.summaries.trans left.summaries⟩

theorem dispatch {event : ViewEvent} (spares : event.sparesList) :
    SameList viewer (viewer.dispatch event) := by
  obtain ⟨shown, summaries⟩ := viewer.state.reduce_of_sparesList spares
  exact ⟨rfl, by rw [dispatch_state, shown], by rw [dispatch_state, summaries]⟩

theorem dispatchAll (spare : ∀ event ∈ events, event.sparesList) :
    SameList viewer (viewer.dispatchAll events) :=
  dispatchAll_induction viewer events
    (fun _ event member same => same.trans (.dispatch (spare event member))) (.refl viewer)

theorem stop : SameList viewer viewer.stop :=
  ⟨stop_challenge viewer, by rw [stop_state], by rw [stop_state]⟩

section
variable {job : String} {status : Status}

theorem takeOver : SameList viewer (viewer.takeOver job status events) := by
  have told : SameList viewer (viewer.dispatch (.sessionOpened (viewer.sessions.length + 1) job
      status (Plan.forStatus? viewer.config status).isSome)) := .dispatch rfl
  exact ⟨told.entered, told.shown, told.summaries⟩

theorem toggle (spare : ∀ event ∈ events, event.sparesList) :
    SameList viewer (viewer.toggle job status events).1 := by
  unfold Viewer.toggle
  split
  · exact (SameList.stop.trans (.dispatch rfl)).trans (.dispatchAll spare)
  · have opened : SameList viewer (viewer.stop.takeOver job status events) :=
      SameList.stop.trans .takeOver
    dsimp only
    split
    · exact opened.trans (.dispatchAll spare)
    · exact opened.trans (.dispatchAll spare)
    · exact opened.trans ⟨rfl, rfl, rfl⟩

end

end SameList

/-! ## What asks for lists -/

def listAfterCalls (comes : String → Option (List Summary)) (calls : List Call)
    (shown : List Summary) : List Summary :=
  (calls.filterMap Call.list?).foldl (fun shown challenge => (comes challenge).getD shown) shown

structure Belongs (may : String → Prop) (viewer : Viewer) : Prop where
  shown : ∀ challenge ∈ viewer.state.challenge, may challenge.id
  entered : ∀ challenge ∈ viewer.challenge, may challenge
  sessions : ∀ {id session}, viewer.session? id = some session → session.Belongs may

structure Within (may : String → Prop) (comes : String → Option (List Summary))
    (viewer after : Viewer) : Prop where
  belongs : after.Belongs may
  stays : viewer.state.challenge.isSome → after.state.challenge.isSome
  asks : ∃ calls, after.calls = viewer.calls ++ calls ∧
    (∀ challenge ∈ calls.filterMap Call.list?, may challenge) ∧
    after.state.summaries = listAfterCalls comes calls viewer.state.summaries

variable {may : String → Prop} {comes : String → Option (List Summary)} {answers : Answers}
  {viewer middle after : Viewer} {id : SessionId} {session : Session}

namespace Within

theorem quiet (belongs : after.Belongs may) (same : SameList viewer after)
    (calls : after.calls = viewer.calls) : Within may comes viewer after :=
  ⟨belongs, fun shown => same.shown ▸ shown, [], by simp [calls], by simp,
    by simp [same.summaries, listAfterCalls]⟩

theorem refl (belongs : viewer.Belongs may) : Within may comes viewer viewer :=
  .quiet belongs (.refl viewer) rfl

theorem trans (left : Within may comes viewer middle) (right : Within may comes middle after) :
    Within may comes viewer after := by
  obtain ⟨-, stays, first, calls, allowed, summaries⟩ := left
  obtain ⟨belongs, stays', second, calls', allowed', summaries'⟩ := right
  refine ⟨belongs, fun shown => stays' (stays shown), first ++ second, ?_, ?_, ?_⟩
  · rw [calls', calls, List.append_assoc]
  · rw [List.filterMap_append]
    exact List.forall_mem_append.mpr ⟨allowed, allowed'⟩
  · rw [summaries', summaries]
    simp [listAfterCalls, List.filterMap_append]

section
variable (belongs : viewer.Belongs may)
include belongs

theorem of_same (same : SameList viewer after) (calls : after.calls = viewer.calls)
    (sessions : ∀ {id session}, after.session? id = some session → session.Belongs may) :
    Within may comes viewer after :=
  .quiet ⟨same.shown ▸ belongs.shown, same.entered ▸ belongs.entered, sessions⟩ same calls

theorem dispatch {event : ViewEvent} (spares : event.sparesList) :
    Within may comes viewer (viewer.dispatch event) :=
  .of_same belongs (.dispatch spares) rfl belongs.sessions

theorem dispatchAll {events : List ViewEvent} (spare : ∀ event ∈ events, event.sparesList) :
    Within may comes viewer (viewer.dispatchAll events) :=
  dispatchAll_induction viewer events
    (fun _ event member within => within.trans (.dispatch within.belongs (spare event member)))
    (.refl belongs)

theorem call {call : Call} (other : call.list? = none) :
    Within may comes viewer (viewer.call call) :=
  ⟨⟨belongs.shown, belongs.entered, belongs.sessions⟩, fun shown => shown, [call], rfl,
    by simp [other], by simp [listAfterCalls, other, Viewer.call, state]⟩

theorem setStage_of {stage : Stage} (found : viewer.session? id = some session)
    (restage : session.Belongs may → { session with stage }.Belongs may) :
    Within may comes viewer (viewer.setStage id stage) := by
  refine .of_same belongs ⟨rfl, rfl, rfl⟩ rfl fun {other entry} located => ?_
  rw [session?_setStage, Option.map_eq_some_iff] at located
  obtain ⟨original, located, rfl⟩ := located
  have held := belongs.sessions located
  split
  · rename_i same
    obtain rfl : original = session := Option.some.inj (located.symm.trans (same ▸ found))
    exact restage held
  · exact held

theorem setStage {stage : Stage} (found : viewer.session? id = some session)
    (ongoing : session.isOver = false) (settled : ∀ next, stage ≠ .listing next) :
    Within may comes viewer (viewer.setStage id stage) :=
  .setStage_of belongs found fun held => held.restage ongoing settled

theorem scroll (teller : Session) : Within may comes viewer (viewer.scroll teller) := by
  unfold Viewer.scroll
  split
  · exact .refl belongs
  · exact .of_same belongs ⟨rfl, rfl, rfl⟩ rfl belongs.sessions

theorem askList {challenge : String} (allowed : may challenge) (delayed : comes challenge = none) :
    Within may comes viewer (viewer.askList challenge) := by
  have told : Within may comes viewer (viewer.dispatch .listLoadStarted) := .dispatch belongs rfl
  refine told.trans ⟨⟨told.belongs.shown, told.belongs.entered, told.belongs.sessions⟩,
    fun shown => shown,
    [.list challenge], rfl, ?_, ?_⟩
  · simpa [Call.list?] using allowed
  · simp [listAfterCalls, Call.list?, delayed, Viewer.askList, Viewer.call, Viewer.state]

theorem loadList {challenge : String} (allowed : may challenge)
    (prompt : comes challenge = (answers.list challenge).toOption) :
    Within may comes viewer (viewer.loadList answers challenge).1 := by
  have same : (viewer.loadList answers challenge).1.state.challenge = viewer.state.challenge ∧
      (viewer.loadList answers challenge).1.challenge = viewer.challenge := by
    unfold Viewer.loadList Viewer.listAnswered
    cases answers.list challenge <;> exact ⟨rfl, rfl⟩
  have told : Alike viewer (viewer.loadList answers challenge).1 := .loadList answers challenge
  refine ⟨⟨same.1 ▸ belongs.shown, same.2 ▸ belongs.entered, fun found => ?_⟩,
    fun shown => same.1 ▸ shown, [.list challenge], loadList_calls challenge, ?_, ?_⟩
  · exact belongs.sessions (told.session?.symm.trans found)
  · simpa [Call.list?] using allowed
  · simpa [listAfterCalls, Call.list?, prompt, listAfter] using
      loadList_summaries viewer answers challenge

theorem conclude {outcome : Outcome} (found : viewer.session? id = some session)
    (ongoing : session.isOver = false) :
    Within may comes viewer (viewer.conclude id outcome) := by
  have ended : Within may comes viewer (viewer.setStage id (.over outcome)) :=
    .setStage belongs found ongoing (by simp)
  unfold Viewer.conclude
  dsimp only
  split
  · exact ended
  · exact ended.trans (.dispatch ended.belongs rfl)

theorem goOn (found : viewer.session? id = some session) (ongoing : session.isOver = false)
    (next : Option Nat) : Within may comes viewer (viewer.goOn id next) := by
  cases next with
  | none =>
    change Within may comes viewer (viewer.conclude id .completed)
    exact .conclude belongs found ongoing
  | some tick => exact .setStage belongs found ongoing (by simp)

theorem refreshFor (found : viewer.session? id = some session) (ongoing : session.isOver = false)
    (answers : Answers) (next : Option Nat) :
    Within may (answers.comes true) viewer (viewer.refreshFor answers id session next) := by
  unfold Viewer.refreshFor
  split
  · exact .goOn belongs found ongoing next
  · rename_i challenge known
    split
    · exact .goOn belongs found ongoing next
    · rename_i uncancelled
      have running := Session.isRunning_iff.mpr ⟨by simpa using uncancelled, ongoing⟩
      -- Only a session that has not been stopped gets here, and such a one asks for its own list.
      have allowed : may challenge :=
        (belongs.sessions found).challenge (by simp [Session.affectsList, running]) challenge known
      split
      · rename_i delays
        have asked : Within may (answers.comes true) viewer (viewer.askList challenge) :=
          .askList belongs allowed (by simp [Answers.comes, delays])
        have kept : (viewer.askList challenge).session? id = some session :=
          (Alike.askList challenge).session?.trans found
        exact asked.trans (.setStage_of asked.belongs kept fun held =>
          held.listing running (by simp [known]) next)
      · rename_i prompt
        have loaded :
            Within may (answers.comes true) viewer (viewer.loadList answers challenge).1 :=
          .loadList belongs allowed (by simp [Answers.comes, prompt])
        have kept : (viewer.loadList answers challenge).1.session? id = some session :=
          (Alike.loadList answers challenge).session?.trans found
        exact loaded.trans (.goOn loaded.belongs kept ongoing next)

theorem poll (found : viewer.session? id = some session) (ongoing : session.isOver = false)
    (tick : Nat) : Within may comes viewer (viewer.poll id session tick) := by
  have asked : Within may comes viewer (viewer.call (.snapshot session.job)) :=
    .call belongs rfl
  exact asked.trans (.setStage asked.belongs found ongoing (by simp))

end

theorem release (belongs : viewer.Belongs may) (id : SessionId) :
    Within may comes viewer (viewer.release id) := by
  unfold Viewer.release
  split
  · exact .of_same belongs ⟨rfl, rfl, rfl⟩ rfl belongs.sessions
  · exact .refl belongs

/-! ## Turns of sessions -/

section
variable (belongs : viewer.Belongs may) (found : viewer.session? id = some session)
include belongs found

theorem begin (ongoing : session.isOver = false) :
    Within may comes viewer (viewer.begin id session) := by
  unfold Viewer.begin
  split
  · exact .conclude belongs found ongoing
  · split
    · exact .poll belongs found ongoing 0
    · have asked : Within may comes viewer (viewer.call (.stream session.job)) :=
        .call belongs rfl
      exact asked.trans (.setStage asked.belongs found ongoing (by simp))

theorem opened (ongoing : session.isOver = false) (result : Except Fault StreamId) :
    Within may comes viewer (viewer.opened id session result) := by
  unfold Viewer.opened
  split
  · exact .conclude belongs found ongoing
  · cases result with
    | ok stream => exact .setStage belongs found ongoing (by simp)
    | error fault => exact .conclude belongs found ongoing

theorem publish? (comes : String → Option (List Summary)) {event : ViewEvent} {told : Viewer}
    (spares : event.sparesList)
    (publishes : viewer.publish? session event = some told) :
    Within may comes viewer told ∧ told.session? id = some session := by
  unfold Viewer.publish? at publishes
  split at publishes
  · obtain rfl := Option.some.inj publishes
    exact ⟨.dispatch belongs spares, found⟩
  · cases publishes

theorem received (ongoing : session.isOver = false) (answers : Answers) (item : StreamItem) :
    Within may (answers.comes true) viewer (viewer.received answers id session item) := by
  unfold Viewer.received
  split
  · exact .conclude belongs found ongoing
  · match item with
    | none | some (.error fault) => exact .conclude belongs found ongoing
    | some (.ok chunk) =>
      dsimp only
      split
      · exact .conclude belongs found ongoing
      · rename_i told publishes
        obtain ⟨within, kept⟩ := publish? belongs found (answers.comes true) rfl publishes
        have scrolls : Within may (answers.comes true) told
            (if chunk.line = "" then told else told.scroll session) := by
          split
          · exact .refl within.belongs
          · exact .scroll within.belongs session
        have still := (Alike.scroll_unless session (chunk.line = "")).session?.trans kept
        have shown := within.trans scrolls
        split
        · exact shown.trans (.refreshFor shown.belongs still ongoing answers none)
        · exact shown

theorem polled (ongoing : session.isOver = false) (answers : Answers) (tick : Nat)
    (result : Except Fault Snapshot) :
    Within may (answers.comes true) viewer (viewer.polled answers id session tick result) := by
  unfold Viewer.polled
  split
  · exact .conclude belongs found ongoing
  · cases result with
    | error fault => exact .setStage belongs found ongoing (by simp)
    | ok snapshot =>
      dsimp only
      split
      · exact .conclude belongs found ongoing
      · rename_i told publishes
        obtain ⟨within, kept⟩ := publish? belongs found (answers.comes true) rfl publishes
        have shown := within.trans (.scroll within.belongs session)
        have still := (Alike.scroll session).session?.trans kept
        split
        · exact shown.trans (.refreshFor shown.belongs still ongoing answers _)
        · exact shown.trans (.goOn shown.belongs still ongoing _)

theorem rested (ongoing : session.isOver = false) (tick : Nat) :
    Within may comes viewer (viewer.rested id session tick) := by
  unfold Viewer.rested
  split
  · exact .conclude belongs found ongoing
  · exact .poll belongs found ongoing tick

theorem showLoaded (result : Except Fault Snapshot) :
    Within may comes viewer (viewer.showLoaded id session result).1 := by
  have published {event : ViewEvent} (spares : event.sparesList) : Within may comes viewer
      (((viewer.publish? session event).getD viewer).dispatch (.sessionFinished id)) := by
    cases publishes : viewer.publish? session event with
    | none => exact .dispatch belongs rfl
    | some told =>
      have within := (publish? belongs found comes spares publishes).1
      exact within.trans (.dispatch within.belongs rfl)
  unfold Viewer.showLoaded
  cases result with
  | ok snapshot => exact published rfl
  | error fault =>
    dsimp only
    split
    · exact .refl belongs
    · split <;> exact published rfl

theorem loaded (ongoing : session.isOver = false) (result : Except Fault Snapshot) :
    Within may comes viewer (viewer.loaded id session result) := by
  have shown : Within may comes viewer (viewer.showLoaded id session result).1 :=
    .showLoaded belongs found result
  have kept : (viewer.showLoaded id session result).1.session? id = some session :=
    (session?_congr id (viewer.showLoaded_sessions id session result).1).trans found
  have ended : Within may comes (viewer.showLoaded id session result).1
      ((viewer.showLoaded id session result).1.setStage id
        (.over (viewer.showLoaded id session result).2)) :=
    .setStage shown.belongs kept ongoing (by simp)
  have released := shown.trans (ended.trans (.release ended.belongs id))
  have plain := (belongs.sessions found).sequel
  exact released.trans
    (.dispatchAll released.belongs fun event member => plain event member ▸ rfl)

end

theorem turn {action : Action} (belongs : viewer.Belongs may) (own : action.session? = some id)
    (unlisted : action.listed? = none) :
    Within may (answers.comes true) viewer (viewer.act answers action) := by
  have standing {session : Session} {stage : Stage} (atStage : session.stage = stage)
      (live : ∀ outcome, stage ≠ .over outcome) : session.isOver = false := by
    unfold Session.isOver
    split
    · rename_i outcome finished
      exact absurd (atStage.symm.trans finished) (live outcome)
    · rfl
  cases action with
  | start other =>
    refine turn_cases (.refl belongs) fun session found => ?_
    split
    · exact .begin belongs found (standing ‹_› (by simp))
    · exact .refl belongs
  | openStream other result =>
    refine turn_cases (.refl belongs) fun session found => ?_
    split
    · exact .opened belongs found (standing ‹_› (by simp)) result
    · exact .refl belongs
  | receive other item =>
    refine turn_cases (.refl belongs) fun session found => ?_
    split
    · exact .received belongs found (standing ‹_› (by simp)) answers item
    · exact .refl belongs
  | answer other result =>
    refine turn_cases (.refl belongs) fun session found => ?_
    split
    · exact .polled belongs found (standing ‹_› (by simp)) answers _ result
    · exact .loaded belongs found (standing ‹_› (by simp)) result
    · exact .refl belongs
  | wake other =>
    refine turn_cases (.refl belongs) fun session found => ?_
    split
    · exact .rested belongs found (standing ‹_› (by simp)) _
    · exact .refl belongs
  | notice other =>
    refine turn_cases (.refl belongs) fun session found => ?_
    have noticed (ongoing : session.isOver = false) : Within may (answers.comes true) viewer
        (if session.isCancelled then viewer.conclude other .cancelled else viewer) := by
      split
      · exact .conclude belongs found ongoing
      · exact .refl belongs
    split
    · exact noticed (standing ‹_› (by simp))
    · exact noticed (standing ‹_› (by simp))
    · exact noticed (standing ‹_› (by simp))
    · exact .refl belongs
  | listed other result => cases unlisted
  | _ => simp [Action.session?] at own

/-! ## What the host asks for -/

section
variable (belongs : viewer.Belongs may)
include belongs

theorem stop : Within may comes viewer viewer.stop := by
  refine .of_same belongs .stop (stop_calls viewer) fun found => ?_
  rw [session?_stop, Option.map_eq_some_iff] at found
  obtain ⟨original, found, rfl⟩ := found
  have held := belongs.sessions found
  split
  · exact held.cancel
  · exact held

section
variable {job : String} {status : Status} {sequel : List ViewEvent}
  (plain : ∀ event ∈ sequel, event = .challengeLoadFinished)
include plain

theorem takeOver : Within may comes viewer (viewer.takeOver job status sequel) := by
  refine .of_same belongs .takeOver rfl fun found => ?_
  rw [session?_takeOver] at found
  split at found
  · obtain rfl := Option.some.inj found
    refine ⟨fun _ => belongs.entered, fun listing => ?_, ?_⟩
    · obtain ⟨next, listing⟩ := Session.isListing_iff.mp listing
      simp only [newcomer] at listing
      split at listing <;> cases listing
    · simp only [newcomer]
      split
      · simp
      · exact plain
  · exact belongs.sessions found

theorem toggle : Within may comes viewer (viewer.toggle job status sequel).1 := by
  have stopped : Within may comes viewer viewer.stop := .stop belongs
  have spare : ∀ event ∈ sequel, event.sparesList := fun event member => plain event member ▸ rfl
  unfold Viewer.toggle
  split
  · have closed : Within may comes viewer (viewer.stop.dispatch .logClosed) :=
      stopped.trans (.dispatch stopped.belongs rfl)
    exact closed.trans (.dispatchAll closed.belongs spare)
  · have opened : Within may comes viewer (viewer.stop.takeOver job status sequel) :=
      stopped.trans (.takeOver stopped.belongs plain)
    dsimp only
    split
    · exact opened.trans (.dispatchAll opened.belongs spare)
    · exact opened.trans (.dispatchAll opened.belongs spare)
    · exact opened.trans (.call opened.belongs rfl)

end

theorem showList {challenge : String} (allowed : may challenge) :
    Within may (answers.comes false) viewer (viewer.showList answers challenge) := by
  have loaded : Within may (answers.comes false) viewer (viewer.loadList answers challenge).1 :=
    .loadList belongs allowed rfl
  unfold Viewer.showList
  dsimp only
  split
  · exact loaded
  · exact loaded.trans (.dispatch loaded.belongs rfl)

theorem introduced {name : String} {found : Challenge} (allowed : may name)
    (shown : may found.id) : Within may comes viewer (viewer.introduced name found) := by
  have asked : Within may comes viewer
      ((viewer.dispatch .challengeLoadStarted).call (.challenge name)) := by
    have told : Within may comes viewer (viewer.dispatch .challengeLoadStarted) :=
      .dispatch belongs rfl
    exact told.trans (.call told.belongs rfl)
  refine asked.trans ⟨⟨?_, ?_, asked.belongs.sessions⟩, fun _ => rfl, [], ?_, by simp, rfl⟩
  · rintro challenge ⟨⟩
    exact shown
  · rintro challenge ⟨⟩
    exact allowed
  · exact (List.append_nil _).symm

theorem enter (challenge target : Option String)
    (allowed : ∀ name found, challenge.filter (· ≠ "") = some name →
      answers.challenge name = .ok found → may name ∧ may found.id) :
    Within may (answers.comes false) viewer (viewer.enter answers challenge target) := by
  cases given : challenge.filter (· ≠ "") with
  | none =>
    simp only [Viewer.enter, given]
    exact .dispatch belongs rfl
  | some name =>
    cases answered : answers.challenge name with
    | error fault =>
      have told : Within may (answers.comes false) viewer (viewer.dispatch .challengeLoadStarted) :=
        .dispatch belongs rfl
      have asked : Within may (answers.comes false) viewer
          ((viewer.dispatch .challengeLoadStarted).call (.challenge name)) :=
        told.trans (.call told.belongs rfl)
      have failed (message : String) : Within may (answers.comes false) viewer
          (((viewer.dispatch .challengeLoadStarted).call (.challenge name)).dispatch
            (.failed message)) :=
        asked.trans (.dispatch asked.belongs rfl)
      simp only [Viewer.enter, given, answered]
      exact (failed _).trans (.dispatch (failed _).belongs rfl)
    | ok found =>
      obtain ⟨mayEnter, mayShow⟩ := allowed name found given answered
      have entered : Within may (answers.comes false) viewer (viewer.introduced name found) :=
        .introduced belongs mayEnter mayShow
      have listed := entered.trans (.showList entered.belongs mayEnter)
      cases target with
      | none =>
        simp only [Viewer.enter, given, answered]
        exact listed.trans (.dispatch listed.belongs rfl)
      | some job =>
        rw [enter_eq given answered]
        have readied :
            Within may (answers.comes false) viewer (viewer.readied answers name found) :=
          listed.trans (.dispatch listed.belongs rfl)
        exact readied.trans (.toggle readied.belongs (by simp))

theorem refresh : Within may (answers.comes false) viewer (viewer.refresh answers) := by
  unfold Viewer.refresh
  split
  · exact .refl belongs
  · rename_i challenge shown
    exact .showList belongs (belongs.shown challenge shown)

theorem cancel : Within may comes viewer viewer.cancel := by
  have stopped : Within may comes viewer viewer.stop := .stop belongs
  unfold Viewer.cancel
  split
  · exact .refl belongs
  · exact stopped.trans (.dispatch stopped.belongs rfl)

theorem join : Within may comes viewer viewer.join.1 := by
  unfold Viewer.join
  split
  · exact .refl belongs
  · split
    · split
      · exact .of_same belongs ⟨rfl, rfl, rfl⟩ rfl belongs.sessions
      · exact .refl belongs
    · exact .refl belongs

end

end Within

end Viewer

end BuildWatch
