import Mathlib.Data.List.Induction
import BuildWatch.Proofs.Follow.Lists
import BuildWatch.Proofs.Follow.Streaming

/-!
# What a session is told

A session that follows a job is told the items of a stream, or the answers to its polls. This alone
decides how far it has come, which log it shows and which lists it asks for, whatever else happens.

* `newsOf`: what a session has been told in the course of a run.
* `Followed`: what the session has come to, as a function of that.
* `LiveRun.followed`: this in every run in which a running job is opened and nobody stops its
  session.
-/

namespace BuildWatch

inductive News where
  | item (item : StreamItem)
  | answer (result : Except Fault Snapshot)

namespace Plan

def isPoll : Plan → Bool
  | pushStream => false
  | pollLoop _ _ => true

def following (config : ViewerConfig) : Plan :=
  match config.transport with
  | .stream => pushStream
  | .poll => pollLoop config.interval config.refreshesList

theorem isPoll_following (config : ViewerConfig) :
    (following config).isPoll = (config.transport == .poll) := by
  unfold following
  cases config.transport <;> rfl

theorem forStatus?_of_live {config : ViewerConfig} {status : Status} (live : status.isLive) :
    forStatus? config status = some (following config) := by
  rw [forStatus?, if_pos live, following]
  cases config.transport <;> rfl

end Plan

namespace News

def isAnswer : News → Bool
  | item _ => false
  | answer _ => true

def ending? : News → Option Outcome
  | item arrived => Viewer.endingOf? arrived
  | answer (.ok snapshot) => if snapshot.status.isTerminal then some .completed else none
  | answer (.error _) => none

def shownIn (log : SelectedLog) : News → SelectedLog
  | item (some (.ok chunk)) => log.append chunk.line chunk.status
  | answer (.ok snapshot) => log.replace snapshot.content snapshot.status
  | _ => log

/-- Whether a session refreshes the list at some news, `count` being how often it has been told
something before: a stream refreshes it at its end, polls with each log but the first answer. -/
def refreshes (session : Session) (count : Nat) : News → Bool
  | item arrived => Viewer.endingOf? arrived == some .completed
  | answer (.ok _) => 0 < count && session.pollPlan.2
  | answer (.error _) => false

end News

/-- The news that an action brings to a session at some stage. A stream that cannot be opened is one
that begins with a fault. -/
def Stage.news? : Stage → Action → Option News
  | .opening, .openStream _ (.error fault) => some (.item (some (.error fault)))
  | .receiving _, .receive _ item => some (.item item)
  | .fetching _, .answer _ result => some (.answer result)
  | _, _ => none

namespace Stage

def awaits : Stage → Action → Bool
  | .ready, .start _ | .opening, .openStream _ _ | .receiving _, .receive _ _
  | .fetching _, .answer _ _ | .resting _, .wake _ | .listing _, .listed _ _ => true
  | _, _ => false

/-- A bound for the turns that a session has before it is told something or is over. -/
def weight : Stage → Nat
  | .over _ | .loading => 0
  | .receiving _ | .fetching _ => 1
  | .opening | .resting _ => 2
  | .ready | .listing _ => 3

theorem weight_le (stage : Stage) : stage.weight ≤ 3 := by
  cases stage <;> simp [weight]

end Stage

def logAfter (job : String) (status : Status) (told : List News) : SelectedLog :=
  told.foldl News.shownIn { job, content := "", status }

theorem logAfter_concat {job : String} {status : Status} {told : List News} {news : News} :
    logAfter job status (told ++ [news]) = news.shownIn (logAfter job status told) := by
  simp [logAfter]

theorem job_logAfter {job : String} {status : Status} (told : List News) :
    (logAfter job status told).job = job := by
  induction told using List.reverseRecOn with
  | nil => rfl
  | append_singleton told news ih =>
    rw [logAfter_concat]
    unfold News.shownIn
    split <;> exact ih

def listsFor (session : Session) (told : List News) : List String :=
  told.zipIdx.flatMap fun entry =>
    if entry.1.refreshes session entry.2 then session.challenge.toList else []

theorem listsFor_concat {session : Session} {told : List News} {news : News} :
    listsFor session (told ++ [news]) = listsFor session told ++
      if news.refreshes session told.length then session.challenge.toList else [] := by
  simp [listsFor, List.zipIdx_append]

def Unended (told : List News) : Prop :=
  ∀ news ∈ told, news.ending? = none

theorem Unended.concat {told : List News} {news : News} (unended : Unended told)
    (goes : news.ending? = none) : Unended (told ++ [news]) := by
  intro other member
  rcases List.mem_append.mp member with earlier | latest
  · exact unended other earlier
  · rw [List.mem_singleton.mp latest, goes]

/-- The last of some news, and no other one, ends a session. -/
structure EndedBy (told : List News) (outcome : Outcome) (earlier : List News) (last : News) :
    Prop where
  told : told = earlier ++ [last]
  before : Unended earlier
  ending : last.ending? = some outcome

namespace Viewer

variable {viewer opened : Viewer} {id : SessionId} {session : Session} {answers : Answers}
  {action : Action} {status : Status} {steps : List (Answers × Action)} {step : Answers × Action}
  {told : List News} {news : News} {stage : Stage}

/-! ## News in a run -/

def news? (viewer : Viewer) (id : SessionId) (action : Action) : Option News :=
  if action.session? = some id then
    (viewer.session? id).bind fun session => session.stage.news? action
  else none

def newsOf (id : SessionId) : Viewer → List (Answers × Action) → List News :=
  gathered (fun viewer step => viewer.act step.1 step.2) fun viewer step =>
    (viewer.news? id step.2).toList

theorem newsOf_concat : newsOf id opened (steps ++ [step]) =
    newsOf id opened steps ++ ((opened.run steps).news? id step.2).toList :=
  gathered_concat

theorem newsOf_eq_concat {earlier : List News} (last : newsOf id opened steps = earlier ++ [news]) :
    ∃ before step after, steps = before ++ step :: after ∧ newsOf id opened before = earlier ∧
      (opened.run before).news? id step.2 = some news := by
  induction steps using List.reverseRecOn with
  | nil => cases earlier <;> cases last
  | append_singleton steps step ih =>
    rw [newsOf_concat] at last
    cases brings : (opened.run steps).news? id step.2 with
    | none =>
      rw [brings, Option.toList_none, List.append_nil] at last
      obtain ⟨before, bringing, after, rfl, earlierEq, bringsEq⟩ := ih last
      exact ⟨before, bringing, after ++ [step], by simp, earlierEq, bringsEq⟩
    | some latest =>
      rw [brings] at last
      obtain ⟨earlierEq, same⟩ := List.append_inj' last rfl
      obtain rfl : latest = news := by simpa using same
      exact ⟨steps, step, [], rfl, earlierEq, brings⟩

def listsAsked (viewer : Viewer) : List String :=
  viewer.calls.filterMap Call.list?

theorem list?_listCalls (challenge : Option String) :
    (listCalls challenge).filterMap Call.list? = challenge.toList := by
  cases challenge <;> rfl

/-! ## Where a session stands -/

/-- The stage of a session that has been told some news. -/
inductive Standing (plan : Option Plan) (told : List News) : Stage → Prop
  | ready (untold : told = []) : Standing plan told .ready
  | opening (streams : plan = some .pushStream) (untold : told = []) : Standing plan told .opening
  | receiving {stream : StreamId} (streams : plan = some .pushStream) (unended : Unended told) :
      Standing plan told (.receiving stream)
  | fetching (polls : plan.any Plan.isPoll) (unended : Unended told) :
      Standing plan told (.fetching told.length)
  | resting (polls : plan.any Plan.isPoll) (unended : Unended told) :
      Standing plan told (.resting told.length)
  | listing (polls : plan.any Plan.isPoll) (unended : Unended told) :
      Standing plan told (.listing (some told.length))
  | refreshing {earlier : List News} {last : News} (ended : EndedBy told .completed earlier last) :
      Standing plan told (.listing none)
  | finished {outcome : Outcome} {earlier : List News} {last : News}
      (ended : EndedBy told outcome earlier last) : Standing plan told (.over outcome)

theorem Standing.isAnswer {plan : Option Plan} (standing : Standing plan told stage)
    (tells : stage.news? action = some news) : news.isAnswer = plan.any Plan.isPoll := by
  cases standing with
  | opening streams =>
    cases action with
    | openStream other result =>
      cases result with
      | ok stream => cases tells
      | error fault =>
        obtain rfl := Option.some.inj tells
        rw [streams]
        rfl
    | _ => cases tells
  | receiving streams =>
    cases action with
    | receive other item =>
      obtain rfl := Option.some.inj tells
      rw [streams]
      rfl
    | _ => cases tells
  | fetching polls =>
    cases action with
    | answer other result =>
      obtain rfl := Option.some.inj tells
      rw [polls]
      rfl
    | _ => cases tells
  | _ => cases tells

/-! ## Turns of a session that is told something -/

/-- A turn has brought some news: it is on screen, and the session goes on or comes to its end. -/
def Advances (viewer after : Viewer) (id : SessionId) (session : Session) (told : List News)
    (news : News) (log : SelectedLog) : Prop :=
  ∃ later scrolls, Standing session.plan (told ++ [news]) later ∧
    Effect viewer after id { session with stage := later }
      (if news.refreshes session told.length then listCalls session.challenge else []) scrolls
      (some (news.shownIn log))

/-- A turn has brought no news. The log is as it was, and no list has been asked for. -/
def Proceeds (viewer after : Viewer) (id : SessionId) (session : Session) (told : List News)
    (stage : Stage) (isAwaited : Bool) : Prop :=
  ∃ later calls scrolls, Standing session.plan told later ∧
    later.weight + isAwaited.toNat ≤ stage.weight ∧ calls.filterMap Call.list? = [] ∧
    Effect viewer after id { session with stage := later } calls scrolls viewer.state.selected

namespace AtHand

theorem advances_of_snapshot {log : SelectedLog} (polls : session.plan.any Plan.isPoll)
    (unended : Unended told)
    (atHand : AtHand viewer id { session with stage := .fetching told.length })
    (belongs : log.job = session.job) (answers : Answers) (snapshot : Snapshot) :
    Advances viewer (viewer.act answers (.answer id (.ok snapshot))) id session told
      (.answer (.ok snapshot)) log := by
  obtain ⟨later, goes, effect⟩ := atHand.effect_polled rfl answers told.length snapshot
  have showing : (News.answer (.ok snapshot)).shownIn log =
      { job := session.job, content := snapshot.content, status := snapshot.status } := by
    rw [← belongs]
    rfl
  have asking : (if (News.answer (.ok snapshot)).refreshes session told.length then
      listCalls session.challenge else []) =
      if 0 < told.length ∧ session.pollPlan.2 then listCalls session.challenge else [] := by
    simp [News.refreshes]
  rw [← atHand.act_snapshot answers rfl] at effect
  rw [Advances, asking, showing]
  refine ⟨later, _, ?_, effect⟩
  cases final : snapshot.status.isTerminal with
  | true =>
    have ended : (News.answer (.ok snapshot)).ending? = some .completed := by
      simp [News.ending?, final]
    simp only [final, if_true] at goes
    rcases goes with rfl | ⟨rfl, -, -⟩
    · exact .finished ⟨rfl, unended, ended⟩
    · exact .refreshing ⟨rfl, unended, ended⟩
  | false =>
    have goesOn : Unended (told ++ [.answer (.ok snapshot)]) :=
      unended.concat (by simp [News.ending?, final])
    have count : told.length + 1 = (told ++ [News.answer (.ok snapshot)]).length := by simp
    simp only [final, Bool.false_eq_true, if_false, count] at goes
    rcases goes with rfl | ⟨rfl, -, -⟩
    · exact .resting polls goesOn
    · exact .listing polls goesOn

section
variable {log : SelectedLog} (shown : viewer.state.selected = some log)
include shown

theorem advances_of_refusal (untold : told = [])
    (atHand : AtHand viewer id { session with stage := .opening }) (answers : Answers)
    (fault : Fault) :
    Advances viewer (viewer.act answers (.openStream id (.error fault))) id session told
      (.item (some (.error fault))) log := by
  have effect := atHand.effect_openStream answers rfl (.error fault)
  have uncompleted : endingOf? (some (.error fault)) ≠ some .completed := by
    simp only [endingOf?]
    split <;> simp
  rw [shown] at effect
  refine ⟨.over (outcomeOf fault), [], .finished ⟨rfl, ?_, rfl⟩, ?_⟩
  · simp [untold, Unended]
  · simpa [News.refreshes, uncompleted, News.shownIn] using effect

theorem advances_of_item {stream : StreamId} (streams : session.plan = some .pushStream)
    (unended : Unended told)
    (atHand : AtHand viewer id { session with stage := .receiving stream }) (answers : Answers)
    (item : StreamItem) :
    Advances viewer (viewer.act answers (.receive id item)) id session told (.item item) log := by
  obtain ⟨later, ends, effect⟩ := atHand.effect_receive answers rfl item
  have showing : (chunk? item).elim viewer.state.selected (fun chunk =>
      viewer.state.selected.map fun log => log.append chunk.line chunk.status) =
      some ((News.item item).shownIn log) := by
    rw [shown]
    cases item with
    | none => rfl
    | some arrived => cases arrived <;> rfl
  rw [showing] at effect
  refine ⟨later, _, ?_, by simpa [News.refreshes] using effect⟩
  cases ended : endingOf? item with
  | none =>
    rw [ended, Option.elim_none] at ends
    exact ends ▸ .receiving streams (unended.concat ended)
  | some outcome =>
    rw [ended, Option.elim_some] at ends
    rcases ends with rfl | ⟨rfl, rfl, -⟩
    · exact .finished ⟨rfl, unended, ended⟩
    · exact .refreshing ⟨rfl, unended, ended⟩

theorem advances_of_fault (polls : session.plan.any Plan.isPoll) (unended : Unended told)
    (atHand : AtHand viewer id { session with stage := .fetching told.length }) (answers : Answers)
    (fault : Fault) :
    Advances viewer (viewer.act answers (.answer id (.error fault))) id session told
      (.answer (.error fault)) log := by
  have effect : Effect viewer _ id _ [] [] _ :=
    .setStage atHand.found (.resting (told.length + 1))
  rw [← atHand.act_fault answers rfl fault, shown] at effect
  refine ⟨_, [], ?_, effect⟩
  have count : told.length + 1 = (told ++ [News.answer (.error fault)]).length := by simp
  rw [count]
  exact .resting polls (unended.concat rfl)

theorem act_of_news (standing : Standing session.plan told stage)
    (atHand : AtHand viewer id { session with stage }) (answers : Answers)
    (own : action.session? = some id) (tells : stage.news? action = some news)
    (belongs : log.job = session.job) :
    Advances viewer (viewer.act answers action) id session told news log := by
  cases standing with
  | opening streams untold =>
    cases action with
    | openStream other result =>
      obtain rfl : other = id := Option.some.inj own
      cases result with
      | ok stream => cases tells
      | error fault =>
        obtain rfl := Option.some.inj tells
        exact advances_of_refusal shown untold atHand answers fault
    | _ => cases tells
  | receiving streams unended =>
    cases action with
    | receive other item =>
      obtain rfl : other = id := Option.some.inj own
      obtain rfl := Option.some.inj tells
      exact advances_of_item shown streams unended atHand answers item
    | _ => cases tells
  | fetching polls unended =>
    cases action with
    | answer other result =>
      obtain rfl : other = id := Option.some.inj own
      obtain rfl := Option.some.inj tells
      cases result with
      | error fault => exact advances_of_fault shown polls unended atHand answers fault
      | ok snapshot =>
        exact advances_of_snapshot polls unended atHand belongs answers snapshot
    | _ => cases tells
  | _ => cases tells

end

theorem proceeds_of_start (untold : told = [])
    (atHand : AtHand viewer id { session with stage := .ready }) (answers : Answers) :
    Proceeds viewer (viewer.act answers (.start id)) id session told .ready true := by
  subst untold
  obtain ⟨plan, planned⟩ := Option.isSome_iff_exists.mp atHand.planned
  replace planned : session.plan = some plan := planned
  cases plan with
  | pushStream =>
    exact ⟨_, _, _, .opening planned rfl, Nat.le_refl 3, rfl,
      atHand.effect_start answers rfl planned⟩
  | pollLoop interval refreshes =>
    have effect := atHand.effect_poll 0
    rw [← atHand.act_start answers rfl planned] at effect
    exact ⟨_, _, _, .fetching (by rw [planned]; rfl) (by simp [Unended]), Nat.le_succ 2, rfl,
      effect⟩

theorem proceeds_of_open (streams : session.plan = some .pushStream) (untold : told = [])
    (atHand : AtHand viewer id { session with stage := .opening }) (answers : Answers)
    (stream : StreamId) :
    Proceeds viewer (viewer.act answers (.openStream id (.ok stream))) id session told .opening
      true :=
  ⟨_, _, _, .receiving streams (by simp [untold, Unended]), Nat.le_refl 2, rfl,
    atHand.effect_openStream answers rfl (.ok stream)⟩

theorem proceeds_of_wake (polls : session.plan.any Plan.isPoll) (unended : Unended told)
    (atHand : AtHand viewer id { session with stage := .resting told.length })
    (answers : Answers) :
    Proceeds viewer (viewer.act answers (.wake id)) id session told (.resting told.length)
      true := by
  have effect := atHand.effect_poll told.length
  rw [← atHand.act_wake answers rfl] at effect
  exact ⟨_, _, _, .fetching polls unended, Nat.le_refl 2, rfl, effect⟩

theorem proceeds_of_list {next : Option Nat} (standing : Standing session.plan told (.listing next))
    (atHand : AtHand viewer id { session with stage := .listing next }) (answers : Answers)
    (result : Except Fault (List Summary)) :
    Proceeds viewer (viewer.act answers (.listed id result)) id session told (.listing next)
      true := by
  have effect : Effect viewer (viewer.act answers (.listed id result)) id
      { session with stage := stageAfter next } [] [] viewer.state.selected := by
    simpa [act, turn, atHand.found] using Effect.listed atHand.found next result
  cases standing with
  | listing polls unended => exact ⟨_, _, _, .resting polls unended, Nat.le_refl 3, rfl, effect⟩
  | refreshing ended => exact ⟨_, _, _, .finished ended, Nat.le_add_left 1 2, rfl, effect⟩

section
variable (standing : Standing session.plan told stage)
  (atHand : AtHand viewer id { session with stage })
include standing atHand

theorem act_of_unawaited (answers : Answers) (own : action.session? = some id)
    (unawaited : stage.awaits action = false) : viewer.act answers action = viewer := by
  have found := atHand.found
  have uncancelled : session.isCancelled = false := atHand.uncancelled
  cases action <;> simp only [Action.session?, reduceCtorEq, Option.some.injEq] at own <;>
    subst own <;> cases standing <;>
    simp_all [Stage.awaits, act, turn]

theorem act_of_silent (answers : Answers) (own : action.session? = some id)
    (silent : stage.news? action = none) :
    Proceeds viewer (viewer.act answers action) id session told stage (stage.awaits action) := by
  cases awaited : stage.awaits action with
  | false =>
    have unmoved := atHand.act_of_unawaited standing answers own awaited
    exact ⟨stage, [], [], standing, Nat.le_refl _, rfl, unmoved.symm ▸ .refl atHand.found⟩
  | true =>
    cases action <;> simp only [Action.session?, reduceCtorEq, Option.some.injEq] at own <;>
      subst own
    case start =>
      cases standing with
      | ready untold => exact proceeds_of_start untold atHand answers
      | _ => cases awaited
    case openStream result =>
      cases standing with
      | opening streams untold =>
        cases result with
        | ok stream => exact proceeds_of_open streams untold atHand answers stream
        | error fault => cases silent
      | _ => cases awaited
    case receive =>
      cases standing with
      | receiving => cases silent
      | _ => cases awaited
    case answer =>
      cases standing with
      | fetching => cases silent
      | _ => cases awaited
    case wake =>
      cases standing with
      | resting polls unended => exact proceeds_of_wake polls unended atHand answers
      | _ => cases awaited
    case notice => cases stage <;> cases awaited
    case listed result =>
      cases stage with
      | listing next => exact proceeds_of_list standing atHand answers result
      | _ => cases awaited

end

end AtHand

/-! ## Runs -/

structure Followed (opened : Viewer) (id : SessionId) (session : Session) (status : Status)
    (steps : List (Answers × Action)) : Prop where
  stands : ∃ stage, Standing session.plan (newsOf id opened steps) stage ∧
    AtHand (opened.run steps) id { session with stage }
  kinds : ∀ news ∈ newsOf id opened steps, news.isAnswer = session.plan.any Plan.isPoll
  selected : (opened.run steps).state.selected =
    some (logAfter session.job status (newsOf id opened steps))
  lists : ownRecord listsAsked id opened steps = listsFor session (newsOf id opened steps)

theorem eq_of_news? (brings : viewer.news? id action = some news) :
    action.session? = some id ∧ ∀ {stage}, viewer.session? id = some { session with stage } →
      stage.news? action = some news := by
  rw [Viewer.news?] at brings
  split at brings
  · rename_i own
    refine ⟨own, fun found => ?_⟩
    rwa [found] at brings
  · cases brings

theorem news?_of_found (found : viewer.session? id = some { session with stage })
    (own : action.session? = some id) : viewer.news? id action = stage.news? action := by
  rw [Viewer.news?, if_pos own, found]
  rfl

theorem newsOf_concat_of_silent (silent : (opened.run steps).news? id step.2 = none) :
    newsOf id opened (steps ++ [step]) = newsOf id opened steps := by
  rw [newsOf_concat, silent, Option.toList_none, List.append_nil]

namespace Followed

theorem start (atHand : AtHand opened id session) (ready : session.stage = .ready)
    (empty : opened.state.selected = some { job := session.job, content := "", status }) :
    Followed opened id session status [] where
  stands := by
    obtain ⟨job, challenge, viewport, plan, stage, isCancelled, sequel⟩ := session
    obtain rfl : stage = .ready := ready
    exact ⟨.ready, .ready rfl, atHand⟩
  kinds := by simp [newsOf, gathered]
  selected := empty
  lists := rfl

variable (followed : Followed opened id session status steps)
include followed

theorem concat_of_other (proper : step.2.isProper) (foreign : step.2.session? ≠ some id)
    (unstopped : (opened.run (steps ++ [step])).isUnstopped id) :
    Followed opened id session status (steps ++ [step]) := by
  obtain ⟨stage, standing, atHand⟩ := followed.stands
  have silent : newsOf id opened (steps ++ [step]) = newsOf id opened steps :=
    newsOf_concat_of_silent (by rw [Viewer.news?, if_neg foreign])
  rw [run_concat] at unstopped
  obtain ⟨still, view⟩ := atHand.act_of_other proper foreign unstopped
  have selected : ((opened.run steps).act step.1 step.2).state.selected = _ :=
    congrArg LogView.selected view
  constructor
  · rw [silent, run_concat]
    exact ⟨stage, standing, still⟩
  · rw [silent]
    exact followed.kinds
  · rw [silent, run_concat, selected]
    exact followed.selected
  · rw [silent, ownRecord_concat_of_other foreign, followed.lists]

theorem lists_concat {calls : List Call} {asked : List String} (own : step.2.session? = some id)
    (called : ((opened.run steps).act step.1 step.2).calls = (opened.run steps).calls ++ calls)
    (lists : calls.filterMap Call.list? = asked) :
    ownRecord listsAsked id opened (steps ++ [step]) =
      listsFor session (newsOf id opened steps) ++ asked := by
  have grows : listsAsked ((opened.run steps).act step.1 step.2) =
      listsAsked (opened.run steps) ++ asked := by
    rw [listsAsked, called, List.filterMap_append, lists]
    rfl
  rw [ownRecord_concat own grows, followed.lists]

theorem concat_of_own (proper : step.2.isProper) (own : step.2.session? = some id) :
    Followed opened id session status (steps ++ [step]) := by
  obtain ⟨stage, standing, atHand⟩ := followed.stands
  have coherent : Coherent .full ((opened.run steps).act step.1 step.2) :=
    atHand.coherent.act_full proper
  have brings := news?_of_found atHand.found own
  cases tells : stage.news? step.2 with
  | none =>
    have silent := newsOf_concat_of_silent (brings.trans tells)
    obtain ⟨later, calls, scrolls, standing, -, quiet, effect⟩ :=
      atHand.act_of_silent standing step.1 own tells
    constructor
    · rw [silent, run_concat]
      exact ⟨later, standing, atHand.of_effect coherent effect⟩
    · rw [silent]
      exact followed.kinds
    · rw [silent, run_concat, effect.selected, followed.selected]
    · rw [silent, followed.lists_concat own effect.calls quiet, List.append_nil]
  | some news =>
    have told : newsOf id opened (steps ++ [step]) = newsOf id opened steps ++ [news] := by
      rw [newsOf_concat, brings, tells, Option.toList_some]
    have kind := standing.isAnswer tells
    obtain ⟨later, scrolls, standing, effect⟩ := AtHand.act_of_news followed.selected standing
      atHand step.1 own tells (job_logAfter _)
    constructor
    · rw [told, run_concat]
      exact ⟨later, standing, atHand.of_effect coherent effect⟩
    · rw [told]
      intro other member
      rcases List.mem_append.mp member with earlier | latest
      · exact followed.kinds other earlier
      · rw [List.mem_singleton.mp latest, kind]
    · rw [told, run_concat, effect.selected, logAfter_concat]
    · rw [told, listsFor_concat]
      refine followed.lists_concat own effect.calls ?_
      split
      · exact list?_listCalls session.challenge
      · rfl

end Followed

theorem isUnstopped_of_append {first rest : List (Answers × Action)}
    (coherent : Coherent .full opened) (proper : ∀ step ∈ first ++ rest, step.2.isProper)
    (unstopped : (opened.run (first ++ rest)).isUnstopped id) :
    (opened.run first).isUnstopped id := by
  have reached : Coherent .full (opened.run first) :=
    (coherent.run_moves first fun step member =>
      .full (proper step (List.mem_append_left rest member))).coherent coherent
  have moves := reached.run_moves rest fun step member =>
    .full (proper step (List.mem_append_right first member))
  rw [run_append] at unstopped
  exact moves.grows.isUnstopped unstopped

theorem followed_run (coherent : Coherent .full opened)
    (begun : Followed opened id session status []) (steps : List (Answers × Action))
    (proper : ∀ step ∈ steps, step.2.isProper)
    (unstopped : (opened.run steps).isUnstopped id) :
    Followed opened id session status steps := by
  -- The induction is on the last step, since news adds to what the session has been told before.
  induction steps using List.reverseRecOn with
  | nil => exact begun
  | append_singleton steps step ih =>
    have latest : step.2.isProper := proper step (by simp)
    have followed := ih (fun step member => proper step (by simp [member]))
      (isUnstopped_of_append coherent proper unstopped)
    by_cases own : step.2.session? = some id
    · exact followed.concat_of_own latest own
    · exact followed.concat_of_other latest own unstopped

/-- A run that begins with an action that opens a running job, and in which nobody stops the session
of that job. -/
structure LiveRun (start : Viewer) (opening : Answers × Action) (after : List (Answers × Action))
    (job : String) (status : Status) : Prop where
  arises : start.Arises
  opens : start.toggles? opening.1 opening.2 = some (job, status)
  hidden : start.isDisplayed job = false
  live : status.isLive
  proper : ∀ step ∈ opening :: after, step.2.isProper
  unstopped : ((start.act opening.1 opening.2).run after).isUnstopped (start.sessions.length + 1)

def liveSession (start : Viewer) (opening : Answers × Action) (job : String) : Session where
  job := job
  challenge := (start.act opening.1 opening.2).challenge
  viewport := start.viewport
  plan := some (.following start.config)
  stage := .ready

theorem liveSession_pollPlan {start : Viewer} {opening : Answers × Action} {job : String}
    (polls : start.config.transport = .poll) : (start.liveSession opening job).pollPlan =
      (start.config.interval, start.config.refreshesList) := by
  simp [Session.pollPlan, liveSession, Plan.following, polls]

namespace LiveRun

variable {start : Viewer} {opening : Answers × Action} {after : List (Answers × Action)}
  {job : String}

theorem followed (run : LiveRun start opening after job status) :
    Followed (start.act opening.1 opening.2) (start.sessions.length + 1)
      (start.liveSession opening job) status after := by
  obtain ⟨atHand, empty⟩ := atHand_of_toggles run.arises.coherent
    (run.proper opening (by simp)) run.opens run.hidden (Plan.forStatus?_of_live run.live)
  exact followed_run atHand.coherent (.start atHand rfl empty) after
    (fun step member => run.proper step (by simp [member])) run.unstopped

theorem isAnswer (run : LiveRun start opening after job status)
    (member : news ∈ newsOf (start.sessions.length + 1) (start.act opening.1 opening.2) after) :
    news.isAnswer = (start.config.transport == .poll) :=
  (run.followed.kinds news member).trans (Plan.isPoll_following start.config)

theorem of_append {before later : List (Answers × Action)}
    (run : LiveRun start opening (before ++ later) job status) :
    LiveRun start opening before job status where
  arises := run.arises
  opens := run.opens
  hidden := run.hidden
  live := run.live
  proper step member := run.proper step
    (List.cons_subset_cons opening (List.subset_append_left before later) member)
  unstopped := isUnstopped_of_append (run.arises.coherent.act_full (run.proper opening (by simp)))
    (fun step member => run.proper step (by simp [member])) run.unstopped

end LiveRun

end Viewer

end BuildWatch
