import Mathlib.Order.Monotone.Basic
import BuildWatch.Proofs.Follow.News

namespace BuildWatch

/-! ## Scripts that end -/

namespace EndedBy

variable {told script earlier : List News} {news last : News} {outcome : Outcome}

theorem mem (ended : EndedBy told outcome earlier last) :
    last ∈ told := by
  simp [ended.told]

theorem not_unended (ended : EndedBy told outcome earlier last) :
    ¬ Unended told := by
  intro unended
  have goes := unended last ended.mem
  rw [ended.ending] at goes
  cases goes

theorem eq_of_prefix {later : Outcome} {sooner : List News}
    (ended : EndedBy script outcome earlier last) (prior : told <+: script)
    (finished : EndedBy told later sooner news) : told = script ∧ later = outcome := by
  have prior' := prior
  rw [ended.told, List.prefix_concat_iff] at prior
  rcases prior with all | short
  · have same : told = script := all.trans ended.told.symm
    obtain ⟨-, lastEq⟩ := List.append_inj' (finished.told.symm.trans all) rfl
    obtain rfl : news = last := by simpa using lastEq
    exact ⟨same, Option.some.inj (finished.ending.symm.trans ended.ending)⟩
  · exact (finished.not_unended fun other member => ended.before other (short.subset member)).elim

end EndedBy

/-! ## Schedules -/

/-- What the host, the platform and the clock do from some moment on. -/
abbrev Schedule : Type :=
  Nat → Answers × Action

namespace Schedule

variable (schedule : Schedule)

def upTo (n : Nat) : List (Answers × Action) :=
  (List.range n).map schedule

theorem upTo_succ (n : Nat) : schedule.upTo (n + 1) = schedule.upTo n ++ [schedule n] := by
  rw [upTo, List.range_succ, List.map_append]
  rfl

variable {schedule} in
theorem eq_of_mem_upTo {n : Nat} {step : Answers × Action} (member : step ∈ schedule.upTo n) :
    ∃ k, step = schedule k := by
  obtain ⟨k, -, rfl⟩ := List.mem_map.mp member
  exact ⟨k, rfl⟩

def chosen (next : List (Answers × Action) → Answers × Action) : Nat → List (Answers × Action)
  | 0 => []
  | n + 1 => chosen next n ++ [next (chosen next n)]

def led (next : List (Answers × Action) → Answers × Action) : Schedule := fun n =>
  next (chosen next n)

variable {next : List (Answers × Action) → Answers × Action}

theorem upTo_led (n : Nat) : (led next).upTo n = chosen next n := by
  induction n with
  | zero => rfl
  | succ n ih => rw [upTo_succ, ih, chosen, led]

theorem led_apply (n : Nat) : led next n = next ((led next).upTo n) := by
  rw [upTo_led, led]

end Schedule

namespace Viewer

variable {start opened : Viewer} {id : SessionId} {session : Session} {opening : Answers × Action}
  {job : String} {status : Status} {steps : List (Answers × Action)} {step : Answers × Action}
  {script told earlier : List News} {last : News} {stage : Stage} {outcome : Outcome}
  {schedule : Schedule}

def awaits (viewer : Viewer) (id : SessionId) (action : Action) : Bool :=
  action.session? == some id && (viewer.session? id).any fun session => session.stage.awaits action

/-- A session is told a script, and as long as it is not over, whatever it waits for comes at some
time: its first turn, the answers to its requests, the next item of its stream, the end of a
rest. -/
structure Plays (opened : Viewer) (id : SessionId) (script : List News) (schedule : Schedule) :
    Prop where
  order : ∀ n, newsOf id opened (schedule.upTo n) <+: script ∨
    script <+: newsOf id opened (schedule.upTo n)
  served : ∀ n session, (opened.run (schedule.upTo n)).session? id = some session →
    session.isOver = false → ∃ m, n ≤ m ∧ (opened.run (schedule.upTo m)).awaits id (schedule m).2

theorem awaits_of_found (found : (opened.run steps).session? id = some { session with stage })
    (own : step.2.session? = some id) :
    (opened.run steps).awaits id step.2 = stage.awaits step.2 := by
  simp [awaits, own, found]

/-! ## What is left of a script -/

/-- A bound for the turns that a session still takes to go through a script. -/
def remaining (script : List News) (opened : Viewer) (id : SessionId)
    (steps : List (Answers × Action)) : Nat :=
  4 * (script.length - (newsOf id opened steps).length) +
    ((opened.run steps).session? id).elim 0 fun session => session.stage.weight

theorem remaining_of_found (found : (opened.run steps).session? id = some { session with stage }) :
    remaining script opened id steps =
      4 * (script.length - (newsOf id opened steps).length) + stage.weight := by
  rw [remaining, found]
  rfl

namespace Followed

variable (followed : Followed opened id session status steps)
include followed

theorem remaining_concat_of_own (own : step.2.session? = some id)
    (short : (newsOf id opened (steps ++ [step])).length ≤ script.length) :
    remaining script opened id (steps ++ [step]) + ((opened.run steps).awaits id step.2).toNat ≤
      remaining script opened id steps := by
  obtain ⟨stage, standing, atHand⟩ := followed.stands
  have brings := news?_of_found atHand.found own
  rw [awaits_of_found atHand.found own, remaining_of_found atHand.found]
  cases tells : stage.news? step.2 with
  | none =>
    obtain ⟨later, _, _, _, lighter, _, effect⟩ := atHand.act_of_silent standing step.1 own tells
    have silent := newsOf_concat_of_silent (brings.trans tells)
    rw [remaining_of_found (run_concat ▸ effect.found), silent]
    omega
  | some news =>
    obtain ⟨later, _, _, effect⟩ := AtHand.act_of_news followed.selected standing atHand step.1 own
      tells (job_logAfter _)
    have told : newsOf id opened (steps ++ [step]) = newsOf id opened steps ++ [news] := by
      rw [newsOf_concat, brings, tells, Option.toList_some]
    rw [told, List.length_append, List.length_singleton] at short
    rw [remaining_of_found (run_concat ▸ effect.found), told, List.length_append,
      List.length_singleton]
    have light := later.weight_le
    have awaited := Bool.toNat_le (stage.awaits step.2)
    omega

theorem remaining_concat_of_other (script : List News) (proper : step.2.isProper)
    (foreign : step.2.session? ≠ some id)
    (unstopped : (opened.run (steps ++ [step])).isUnstopped id) :
    remaining script opened id (steps ++ [step]) = remaining script opened id steps ∧
      (opened.run steps).awaits id step.2 = false := by
  obtain ⟨stage, -, atHand⟩ := followed.stands
  rw [run_concat] at unstopped
  obtain ⟨still, -⟩ := atHand.act_of_other proper foreign unstopped
  have silent : newsOf id opened (steps ++ [step]) = newsOf id opened steps :=
    newsOf_concat_of_silent (by rw [Viewer.news?, if_neg foreign])
  refine ⟨?_, by simp [awaits, foreign]⟩
  rw [remaining_of_found atHand.found, remaining_of_found (run_concat ▸ still.found), silent]

end Followed

/-! ## Sessions that are served come to their end -/

theorem Standing.unended_or_ended {plan : Option Plan} (standing : Standing plan told stage) :
    Unended told ∨ ∃ outcome earlier last, EndedBy told outcome earlier last := by
  cases standing with
  | ready untold | opening _ untold => exact .inl (by simp [untold, Unended])
  | receiving _ unended | fetching _ unended | resting _ unended | listing _ unended =>
    exact .inl unended
  | refreshing ended | finished ended => exact .inr ⟨_, _, _, ended⟩

structure Undisturbed (opened : Viewer) (id : SessionId) (session : Session) (status : Status)
    (schedule : Schedule) : Prop where
  followed : ∀ n, Followed opened id session status (schedule.upTo n)
  proper : ∀ n, (schedule n).2.isProper
  unstopped : ∀ n, (opened.run (schedule.upTo n)).isUnstopped id

section
variable (alone : Undisturbed opened id session status schedule)
include alone

theorem Undisturbed.grows {n m : Nat} (later : n ≤ m) :
    (opened.run (schedule.upTo n)).Grows (opened.run (schedule.upTo m)) := by
  induction later with
  | refl => exact .refl _
  | @step m _ ih =>
    obtain ⟨stage, -, atHand⟩ := (alone.followed m).stands
    rw [Schedule.upTo_succ, run_concat]
    exact ih.trans (atHand.coherent.act_moves (.full (alone.proper m))).grows

variable (plays : Plays opened id script schedule) (ended : EndedBy script outcome earlier last)
include plays ended

theorem Plays.told_prefix (n : Nat) : newsOf id opened (schedule.upTo n) <+: script := by
  rcases plays.order n with before | beyond
  · exact before
  · obtain ⟨stage, standing, -⟩ := (alone.followed n).stands
    rcases standing.unended_or_ended with unended | ⟨other, sooner, news, finished⟩
    · exact (ended.not_unended fun news member => unended news (beyond.subset member)).elim
    · rw [(finished.eq_of_prefix beyond ended).1]

theorem Plays.remaining_succ (n : Nat) :
    remaining script opened id (schedule.upTo (n + 1)) +
      ((opened.run (schedule.upTo n)).awaits id (schedule n).2).toNat ≤
      remaining script opened id (schedule.upTo n) := by
  have followed := alone.followed n
  have short := (plays.told_prefix alone ended (n + 1)).length_le
  have unstopped := alone.unstopped (n + 1)
  rw [Schedule.upTo_succ] at short unstopped ⊢
  by_cases own : (schedule n).2.session? = some id
  · exact followed.remaining_concat_of_own own short
  · obtain ⟨same, unawaited⟩ :=
      followed.remaining_concat_of_other script (alone.proper n) own unstopped
    rw [same, unawaited]
    rfl

theorem Plays.exists_over (n : Nat) : ∃ m session,
    (opened.run (schedule.upTo m)).session? id = some session ∧ session.isOver := by
  have falls : Antitone fun n => remaining script opened id (schedule.upTo n) :=
    antitone_nat_of_succ_le fun n =>
      Nat.le_trans (Nat.le_add_right _ _) (plays.remaining_succ alone ended n)
  -- No step adds to what is left, and the awaited one, however late it comes, takes from it.
  induction left : remaining script opened id (schedule.upTo n)
    using Nat.strong_induction_on generalizing n with
  | _ left ih =>
    obtain ⟨stage, -, atHand⟩ := (alone.followed n).stands
    cases finished : Session.isOver { session with stage } with
    | true => exact ⟨n, _, atHand.found, finished⟩
    | false =>
      obtain ⟨m, later, awaited⟩ := plays.served n _ atHand.found finished
      have before : _ ≤ remaining script opened id (schedule.upTo n) := falls later
      have next := plays.remaining_succ alone ended m
      rw [awaited, Bool.toNat_true] at next
      exact ih _ (left ▸ Nat.lt_of_lt_of_le next before) (m + 1) rfl

theorem Plays.ends : ∃ n, ∀ m, n ≤ m → newsOf id opened (schedule.upTo m) = script ∧
    AtHand (opened.run (schedule.upTo m)) id { session with stage := .over outcome } := by
  obtain ⟨n, reached, found, finished⟩ := plays.exists_over alone ended 0
  refine ⟨n, fun m later => ?_⟩
  obtain ⟨stage, standing, atHand⟩ := (alone.followed m).stands
  obtain ⟨grown, located, growth⟩ := alone.grows later found
  obtain rfl := Option.some.inj (located.symm.trans atHand.found)
  have same : stage = reached.stage := growth.finished finished
  have still : Session.isOver { session with stage } := by rwa [Session.isOver, same]
  cases standing with
  | finished told =>
    obtain ⟨all, rfl⟩ := ended.eq_of_prefix (plays.told_prefix alone ended m) told
    exact ⟨all, atHand⟩
  | _ => cases still

end

/-- A schedule by which the session that an action opens goes through a script, stopped by
nobody. -/
structure Performs (start : Viewer) (opening : Answers × Action) (job : String) (status : Status)
    (script : List News) (schedule : Schedule) : Prop where
  run : ∀ n, LiveRun start opening (schedule.upTo n) job status
  plays : Plays (start.act opening.1 opening.2) (start.sessions.length + 1) script schedule

theorem Performs.ends (performs : Performs start opening job status script schedule)
    (ended : EndedBy script outcome earlier last) :
    ∃ n, ∀ m, n ≤ m →
      newsOf (start.sessions.length + 1) (start.act opening.1 opening.2) (schedule.upTo m) =
        script ∧
      AtHand ((start.act opening.1 opening.2).run (schedule.upTo m)) (start.sessions.length + 1)
        { start.liveSession opening job with stage := .over outcome } := by
  have alone : Undisturbed (start.act opening.1 opening.2) (start.sessions.length + 1)
      (start.liveSession opening job) status schedule :=
    { followed := fun n => (performs.run n).followed
      proper := fun n => (performs.run (n + 1)).proper _ (by simp [Schedule.upTo_succ])
      unstopped := fun n => (performs.run n).unstopped }
  exact performs.plays.ends alone ended

end Viewer

/-! ## Every script can be played -/

def News.deliver (id : SessionId) : News → Action
  | item arrived => .receive id arrived
  | answer result => .answer id result

namespace Stage

variable {stage : Stage} {id : SessionId} {rest : List News}

/-- What a session waits for, with its news taken from the rest of a script. -/
def due (id : SessionId) (rest : List News) : Stage → Action
  | .ready => .start id
  | .opening => .openStream id (.ok 0)
  | .receiving _ | .fetching _ => rest.head?.elim (.wake id) (News.deliver id)
  | .listing _ => .listed id (.ok [])
  | .resting _ | .loading | .over _ => .wake id

theorem session?_due (stage : Stage) : (stage.due id rest).session? = some id := by
  cases stage with
  | receiving | fetching => rcases rest with _ | ⟨_ | _, _⟩ <;> rfl
  | _ => rfl

theorem head?_of_news?_due {news : News} (tells : stage.news? (stage.due id rest) = some news) :
    rest.head? = some news := by
  cases stage with
  | receiving | fetching => rcases rest with _ | ⟨_ | _, _⟩ <;> simp_all [due, news?, News.deliver]
  | _ => cases tells

end Stage

namespace Viewer

variable {start viewer opened : Viewer} {id : SessionId} {session : Session}
  {opening : Answers × Action} {job : String} {status : Status} {steps : List (Answers × Action)}
  {script told rest earlier : List News} {last : News} {stage : Stage} {outcome : Outcome}

theorem Standing.awaits_due {plan : Option Plan} (standing : Standing plan told stage)
    (ended : EndedBy (told ++ rest) outcome earlier last)
    (kinds : ∀ news ∈ told ++ rest, news.isAnswer = plan.any Plan.isPoll)
    (ongoing : ∀ outcome, stage ≠ .over outcome) : stage.awaits (stage.due id rest) := by
  cases standing with
  | ready | opening | resting | listing | refreshing => rfl
  | finished => exact (ongoing _ rfl).elim
  | receiving streams unended =>
    rcases rest with _ | ⟨news, rest⟩
    · exact (ended.not_unended (by rwa [List.append_nil])).elim
    · have kind := kinds news (by simp)
      cases news with
      | item => rfl
      | answer => simp [streams, News.isAnswer, Plan.isPoll] at kind
  | fetching polls unended =>
    rcases rest with _ | ⟨news, rest⟩
    · exact (ended.not_unended (by rwa [List.append_nil])).elim
    · have kind := kinds news (by simp)
      cases news with
      | item => simp [polls, News.isAnswer] at kind
      | answer => rfl

def due (viewer : Viewer) (id : SessionId) (rest : List News) : Action :=
  (viewer.session? id).elim (.wake id) fun session => session.stage.due id rest

theorem session?_due (viewer : Viewer) : (viewer.due id rest).session? = some id := by
  rw [due]
  cases viewer.session? id with
  | none => rfl
  | some session => exact session.stage.session?_due

theorem due_of_found (found : viewer.session? id = some { session with stage }) :
    viewer.due id rest = stage.due id rest := by
  rw [due, found, Option.elim_some]

def nextOf (opened : Viewer) (id : SessionId) (script : List News)
    (steps : List (Answers × Action)) : Answers × Action :=
  (.bare, (opened.run steps).due id (script.drop (newsOf id opened steps).length))

theorem nextOf_own : (nextOf opened id script steps).2.session? = some id :=
  session?_due _

theorem nextOf_of_found (found : (opened.run steps).session? id = some { session with stage })
    (split : newsOf id opened steps ++ rest = script) :
    (nextOf opened id script steps).2 = stage.due id rest := by
  rw [nextOf, ← split, List.drop_left]
  exact due_of_found found

theorem Followed.concat_nextOf (followed : Followed opened id session status steps)
    (told : newsOf id opened steps <+: script) :
    Followed opened id session status (steps ++ [nextOf opened id script steps]) ∧
      newsOf id opened (steps ++ [nextOf opened id script steps]) <+: script := by
  refine ⟨followed.concat_of_own (Action.isProper_of_own nextOf_own) nextOf_own, ?_⟩
  obtain ⟨stage, standing, atHand⟩ := followed.stands
  obtain ⟨rest, split⟩ := told
  rw [newsOf_concat, news?_of_found atHand.found nextOf_own, nextOf_of_found atHand.found split]
  cases tells : stage.news? (stage.due id rest) with
  | none => exact ⟨rest, by rw [Option.toList_none, List.append_nil, split]⟩
  | some news =>
    obtain ⟨later, rfl⟩ := List.head?_eq_some_iff.mp (Stage.head?_of_news?_due tells)
    exact ⟨later, by rw [Option.toList_some, List.append_assoc, List.singleton_append, split]⟩

/-- The schedule by which a session gets at once whatever it waits for. -/
def obliging (opened : Viewer) (id : SessionId) (script : List News) : Schedule :=
  .led (nextOf opened id script)

theorem obliging_own (n : Nat) : (obliging opened id script n).2.session? = some id :=
  nextOf_own

theorem Followed.obliging (begun : Followed opened id session status []) (script : List News)
    (n : Nat) :
    Followed opened id session status ((obliging opened id script).upTo n) ∧
      newsOf id opened ((obliging opened id script).upTo n) <+: script := by
  rw [Viewer.obliging, Schedule.upTo_led]
  induction n with
  | zero => exact ⟨begun, List.nil_prefix⟩
  | succ n ih => exact ih.1.concat_nextOf ih.2

theorem Followed.plays_obliging (begun : Followed opened id session status [])
    (ended : EndedBy script outcome earlier last)
    (kinds : ∀ news ∈ script, news.isAnswer = session.plan.any Plan.isPoll) :
    Plays opened id script (Viewer.obliging opened id script) where
  order n := .inl (begun.obliging script n).2
  served n reached found ongoing := by
    obtain ⟨followed, rest, split⟩ := begun.obliging script n
    obtain ⟨stage, standing, atHand⟩ := followed.stands
    obtain rfl := Option.some.inj (atHand.found.symm.trans found)
    have given : (Viewer.obliging opened id script n).2 = stage.due id rest := by
      rw [Viewer.obliging, Schedule.led_apply]
      exact nextOf_of_found atHand.found split
    refine ⟨n, Nat.le_refl n, ?_⟩
    rw [awaits_of_found atHand.found (obliging_own n), given]
    refine standing.awaits_due (by rwa [split]) (by rwa [split]) ?_
    rintro outcome rfl
    cases ongoing

theorem LiveRun.exists_performs (run : LiveRun start opening [] job status)
    (ended : EndedBy script outcome earlier last)
    (kinds : ∀ news ∈ script, news.isAnswer = (start.config.transport == .poll)) :
    ∃ schedule, Performs start opening job status script schedule ∧
      ∀ n, (schedule n).2.session? = some (start.sessions.length + 1) := by
  have begun := run.followed
  have planned : (start.liveSession opening job).plan.any Plan.isPoll = _ :=
    Plan.isPoll_following start.config
  refine ⟨obliging _ _ script, ⟨fun n => ?_, begun.plays_obliging ended ?_⟩, obliging_own⟩
  · obtain ⟨stage, -, atHand⟩ := (begun.obliging script n).1.stands
    refine { run with proper := fun step member => ?_, unstopped := ?_ }
    · rcases List.mem_cons.mp member with rfl | later
      · exact run.proper _ (by simp)
      · obtain ⟨k, rfl⟩ := Schedule.eq_of_mem_upTo later
        exact Action.isProper_of_own (obliging_own k)
    · rw [isUnstopped, atHand.found]
      simpa using atHand.uncancelled
  · rwa [planned]

end Viewer

end BuildWatch
