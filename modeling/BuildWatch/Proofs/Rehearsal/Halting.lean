import Mathlib.Data.List.Induction
import BuildWatch.Proofs.Rehearsal.Settling
import BuildWatch.Proofs.Rehearsal.Streams

namespace BuildWatch

def Leeway.prompt : Leeway where
  leave := True
  wait := False
  abort := True

namespace Rehearsal

open Viewer

variable {start rehearsal : Rehearsal} {id : SessionId} {session : Session} {action : Action}
  {happening : Happening} {course : List Happening} {due : Nat}

/-! ## What other happenings leave alone -/

theorem session?_of_foreign_turn {other : SessionId} (own : action.session? = some other)
    (differs : id ≠ other) :
    (rehearsal.viewer.act rehearsal.platform.answers action).session? id =
      rehearsal.viewer.session? id := by
  rcases restaged_of_turn rehearsal.viewer rehearsal.platform.answers own
    with same | ⟨stage, -, restaged⟩
  · exact session?_congr id same
  · rw [session?_congr id restaged, session?_setStage]
    simp [differs]

theorem session?_of_foreign (foreign : happening.session? ≠ some id)
    (allowed : rehearsal.Allows happening) (found : rehearsal.viewer.session? id = some session) :
    (rehearsal.happen happening).viewer.session? id = some session ∨
      (rehearsal.happen happening).viewer.session? id =
        some { session with isCancelled := true } := by
  cases happening with
  | turn other =>
    have differs : id ≠ other := fun same => foreign (congrArg some same.symm)
    left
    simp only [happen, runTask]
    cases acts : rehearsal.turn? other with
    | none => exact found
    | some action =>
      dsimp only
      rw [perform_viewer, session?_of_foreign_turn (session?_of_turn? acts) differs, found]
  | request action =>
    have kept := session?_act_of_host allowed.1 allowed.2 rehearsal.platform.answers found
    simp only [happen, perform_viewer, kept]
    split
    · exact .inr rfl
    · exact .inl rfl
  | script | pass => exact .inl found

theorem stage_of_foreign (foreign : happening.session? ≠ some id)
    (allowed : rehearsal.Allows happening)
    (found : (rehearsal.happen happening).viewer.session? id = some session) :
    session.IsNew ∨ ∃ earlier, rehearsal.viewer.session? id = some earlier ∧
      earlier.stage = session.stage := by
  cases known : rehearsal.viewer.session? id with
  | some earlier =>
    refine .inr ⟨earlier, rfl, ?_⟩
    rcases session?_of_foreign foreign allowed known with same | stopped
    · rw [Option.some.inj (found.symm.trans same)]
    · rw [Option.some.inj (found.symm.trans stopped)]
  | none =>
    cases happening with
    | turn other =>
      have differs : id ≠ other := fun same => foreign (congrArg some same.symm)
      simp only [happen, runTask] at found
      cases acts : rehearsal.turn? other with
      | none => simp [acts, known] at found
      | some action =>
        simp only [acts] at found
        rw [perform_viewer, session?_of_foreign_turn (session?_of_turn? acts) differs,
          known] at found
        cases found
    | request action =>
      simp only [happen, perform_viewer] at found
      rcases stage_of_host allowed.1 allowed.2 found with new | ⟨earlier, located, -⟩
      · exact .inl new
      · exact absurd (known.symm.trans located) (by simp)
    | script | pass => exact absurd (known.symm.trans found) (by simp)

theorem now_happen : (rehearsal.happen happening).now =
    match happening with
    | .pass later => later
    | _ => rehearsal.now := by
  cases happening with
  | turn other =>
    simp only [happen, runTask]
    split
    · rfl
    · exact perform_now
  | request action => exact perform_now
  | script | pass => rfl

theorem Booked.happen {answer : Option (Except Fault Snapshot)}
    (booked : rehearsal.Booked id due answer) (foreign : happening.session? ≠ some id)
    (allowed : rehearsal.Allows happening) (found : rehearsal.viewer.session? id = some session) :
    (rehearsal.happen happening).Booked id due answer := by
  rw [Booked, filter_happen foreign allowed found]
  exact booked

/-! ## Polls under way -/

def Punctual (rehearsal : Rehearsal) : Prop :=
  ∀ id session tick, rehearsal.viewer.session? id = some session →
    session.stage = .fetching tick →
      ∃ due answer, rehearsal.Booked id due (some answer) ∧ rehearsal.now ≤ due

theorem booked_of_fetching {tick : Nat} (own : action.session? = some id)
    (found : (rehearsal.perform action).viewer.session? id = some session)
    (fetching : session.stage = .fetching tick) :
    ∃ due answer, (rehearsal.perform action).Booked id due (some answer) ∧
      (rehearsal.perform action).now ≤ due := by
  rw [perform_viewer] at found
  refine ⟨rehearsal.now + ((rehearsal.taken action).fetch session.job).2.delay,
    ((rehearsal.taken action).fetch session.job).1, ?_, ?_⟩
  · simp [Booked, agenda_perform own found, book, found, fetching]
  · rw [perform_now]
    exact Nat.le_add_right _ _

theorem Punctual.happen (punctual : rehearsal.Punctual) (allowed : rehearsal.Allows happening) :
    (rehearsal.happen happening).Punctual := by
  intro id session tick found fetching
  by_cases own : happening.session? = some id
  · obtain rfl : happening = .turn id := by
      cases happening <;> simp_all [Happening.session?]
    simp only [Rehearsal.happen, runTask] at found ⊢
    cases acts : rehearsal.turn? id with
    | none =>
      simp only [acts] at found
      exact punctual id session tick found fetching
    | some action =>
      simp only [acts] at found
      exact booked_of_fetching (session?_of_turn? acts) found fetching
  · rcases stage_of_foreign own allowed found with new | ⟨earlier, known, stood⟩
    · rcases new with ready | loading
      · exact absurd (ready.symm.trans fetching) (by simp)
      · exact absurd (loading.symm.trans fetching) (by simp)
    · have fetchingBefore : earlier.stage = .fetching tick := stood.trans fetching
      obtain ⟨due, answer, booked, ahead⟩ := punctual id earlier tick known fetchingBefore
      refine ⟨due, answer, booked.happen own allowed known, ?_⟩
      rw [now_happen]
      cases happening with
      | pass later =>
        obtain ⟨-, idle, next⟩ := allowed
        have waits := idle id (session?_bounds known).2
        rw [turn?_of_fetching known fetchingBefore booked] at waits
        refine booked.le_due (Nat.lt_of_not_le fun arrived => ?_) next
        simp [arrived] at waits
      | _ => exact ahead

theorem punctual_follow (punctual : rehearsal.Punctual)
    (allowed : Throughout Allows rehearsal course) : (rehearsal.follow course).Punctual := by
  induction course generalizing rehearsal with
  | nil => exact punctual
  | cons first rest ih => exact ih (punctual.happen allowed.1) allowed.2

theorem prompt_follow (coherent : Coherent .prompt rehearsal.viewer)
    (allowed : Throughout Allows rehearsal course) :
    Coherent .prompt (rehearsal.follow course).viewer := by
  have acted {rehearsal : Rehearsal} {action : Action}
      (coherent : Coherent .prompt rehearsal.viewer) (proper : action.isProper) :
      Coherent .prompt (rehearsal.perform action).viewer := by
    rw [perform_viewer]
    have permitted : Permits .prompt (rehearsal.platform.answers, action) :=
      { proper
        leaves := fun _ => trivial
        waits := fun delayed => absurd delayed Bool.false_ne_true
        aborts := fun _ => trivial }
    exact (coherent.act_moves permitted).coherent coherent
  induction course generalizing rehearsal with
  | nil => exact coherent
  | cons first rest ih =>
    refine ih ?_ allowed.2
    cases first with
    | turn id =>
      simp only [happen, runTask]
      cases acts : rehearsal.turn? id with
      | none => exact coherent
      | some action => exact acted coherent (isProper_of_session? (session?_of_turn? acts))
    | request action => exact acted coherent allowed.1.2
    | script | pass => exact coherent

/-! ## Sessions that are stopped -/

/-- When a session ends that is stopped now: at once, or with the answer to a poll under way. -/
def EndsAt (rehearsal : Rehearsal) (id : SessionId) (session : Session) (due : Nat) : Prop :=
  match session.stage with
  | .fetching _ => ∃ answer, rehearsal.Booked id due (some answer)
  | _ => due = rehearsal.now

theorem endsAt_of_fetching {tick : Nat} (fetching : session.stage = .fetching tick) :
    rehearsal.EndsAt id session due ↔ ∃ answer, rehearsal.Booked id due (some answer) := by
  rw [EndsAt, fetching]

theorem endsAt_of_other (other : ∀ tick, session.stage ≠ .fetching tick) :
    rehearsal.EndsAt id session due ↔ due = rehearsal.now := by
  unfold EndsAt
  split
  · exact absurd ‹_› (other _)
  · rfl

/-- What has become of a session that was stopped. -/
inductive Halts (rehearsal : Rehearsal) (id : SessionId) (session : Session) (due : Nat) : Prop
  | waits (found : rehearsal.viewer.session? id = some { session with isCancelled := true })
      (ahead : rehearsal.now ≤ due) (ends : rehearsal.EndsAt id session due) :
      Halts rehearsal id session due
  | ended (found : rehearsal.viewer.session? id =
        some { session with isCancelled := true, stage := .over .cancelled })
      (past : due ≤ rehearsal.now) :
      Halts rehearsal id session due

section
variable (found : rehearsal.viewer.session? id = some session) (cancelled : session.isCancelled)
  (live : session.stage.isLive) (prompt : ∀ next, session.stage ≠ .listing next)
include found cancelled live prompt

theorem turn?_of_stopped (ends : rehearsal.EndsAt id session due) (ahead : rehearsal.now ≤ due) :
    (rehearsal.turn? id = none ∧ rehearsal.now < due) ∨
    (rehearsal.now = due ∧ ∃ action, rehearsal.turn? id = some action ∧
      rehearsal.taken action = rehearsal.platform ∧
      rehearsal.viewer.act rehearsal.platform.answers action =
        rehearsal.viewer.setStage id (.over .cancelled)) := by
  have atOnce {action : Action} (turn : rehearsal.turn? id = some action)
      (silent : rehearsal.taken action = rehearsal.platform)
      (acts : rehearsal.viewer.act rehearsal.platform.answers action =
        rehearsal.viewer.conclude id .cancelled) :
      ∃ action, rehearsal.turn? id = some action ∧
        rehearsal.taken action = rehearsal.platform ∧
        rehearsal.viewer.act rehearsal.platform.answers action =
          rehearsal.viewer.setStage id (.over .cancelled) :=
    ⟨action, turn, silent, acts.trans (by simp [conclude])⟩
  unfold EndsAt at ends
  cases standing : session.stage with
  | ready =>
    rw [standing] at ends
    refine .inr ⟨ends.symm, atOnce (turn?_of_ready found standing) rfl ?_⟩
    simp [act, turn, found, standing, begin, cancelled]
  | opening | receiving | resting =>
    rw [standing] at ends
    refine .inr ⟨ends.symm, @atOnce (.notice id) ?_ rfl ?_⟩
    · simp [turn?, found, standing, cancelled]
    · simp [act, turn, found, standing, cancelled]
  | fetching tick =>
    rw [standing] at ends
    obtain ⟨result, booked⟩ := ends
    have awaits := turn?_of_fetching found standing booked
    by_cases arrived : due ≤ rehearsal.now
    · rw [if_pos arrived] at awaits
      refine .inr ⟨Nat.le_antisymm ahead arrived, atOnce awaits rfl ?_⟩
      simp [act, turn, found, standing, polled, cancelled]
    · rw [if_neg arrived] at awaits
      exact .inl ⟨awaits, Nat.lt_of_not_le arrived⟩
  | listing next => exact absurd standing (prompt next)
  | _ => simp [standing, Stage.isLive] at live

end

structure Silent (before after : Rehearsal) : Prop where
  platform : after.platform = before.platform
  now : after.now = before.now
  calls : after.viewer.calls = before.viewer.calls
  scrolls : after.viewer.scrolls = before.viewer.scrolls
  logView : after.viewer.state.logView = before.viewer.state.logView

theorem Silent.refl (rehearsal : Rehearsal) : Silent rehearsal rehearsal :=
  ⟨rfl, rfl, rfl, rfl, rfl⟩

theorem silent_of_halt (own : action.session? = some id)
    (found : rehearsal.viewer.session? id = some session)
    (taken : rehearsal.taken action = rehearsal.platform)
    (ends : rehearsal.viewer.act rehearsal.platform.answers action =
      rehearsal.viewer.setStage id (.over .cancelled)) :
    Silent rehearsal (rehearsal.perform action) := by
  have ended : (rehearsal.viewer.setStage id (.over .cancelled)).session? id =
      some { session with stage := .over .cancelled } :=
    session?_setStage_self found
  have platform : (rehearsal.perform action).platform = rehearsal.platform := by
    unfold perform wake
    dsimp only
    rw [participant_of_session? own, ends, taken]
    split
    · rfl
    · simp [book, ended]
  refine ⟨platform, perform_now, ?_, ?_, ?_⟩ <;> rw [perform_viewer, ends] <;> rfl

section
variable (live : session.stage.isLive) (prompt : ∀ next, session.stage ≠ .listing next)
include live prompt

theorem Halts.turn (halts : rehearsal.Halts id session due) :
    Silent rehearsal (rehearsal.happen (.turn id)) ∧
    ((rehearsal.happen (.turn id)).Halts id session due) ∧
    ((rehearsal.happen (.turn id)).viewer.session? id =
        some { session with isCancelled := true, stage := .over .cancelled } ↔
      due ≤ rehearsal.now) := by
  cases halts with
  | waits found ahead ends =>
    have standing : rehearsal.EndsAt id { session with isCancelled := true } due := ends
    rcases turn?_of_stopped found rfl live prompt standing ahead with
      ⟨idle, early⟩ | ⟨punctual, action, acts, taken, halt⟩
    · simp only [happen, runTask, idle]
      refine ⟨.refl rehearsal, .waits found ahead ends, fun ended => ?_, fun past => ?_⟩
      · have stood := congrArg (Option.map Session.stage) (found.symm.trans ended)
        have finished : session.stage = .over .cancelled := Option.some.inj stood
        simp [finished, Stage.isLive] at live
      · exact absurd past (Nat.not_le_of_lt early)
    · have own := session?_of_turn? acts
      have arrived : due ≤ rehearsal.now := Nat.le_of_eq punctual.symm
      have silent := silent_of_halt own found taken halt
      have ended : (rehearsal.perform action).viewer.session? id =
          some { session with isCancelled := true, stage := .over .cancelled } := by
        rw [perform_viewer, halt, session?_setStage_self found]
      simp only [happen, runTask, acts]
      refine ⟨silent, .ended ended ?_, fun _ => arrived, fun _ => ended⟩
      rw [perform_now]
      exact arrived
  | ended found past =>
    have idle : rehearsal.turn? id = none := turn?_of_over found rfl
    simp only [happen, runTask, idle]
    exact ⟨.refl rehearsal, .ended found past, fun _ => past, fun _ => found⟩

theorem Halts.happen (halts : rehearsal.Halts id session due)
    (allowed : rehearsal.Allows happening) : (rehearsal.happen happening).Halts id session due := by
  by_cases own : happening.session? = some id
  · obtain rfl : happening = .turn id := by
      cases happening <;> simp_all [Happening.session?]
    exact (halts.turn live prompt).2.1
  · have kept {stage : Stage}
        (found : rehearsal.viewer.session? id =
          some { session with isCancelled := true, stage }) :
        (rehearsal.happen happening).viewer.session? id =
          some { session with isCancelled := true, stage } := by
      rcases session?_of_foreign own allowed found with same | same
      · exact same
      · exact same
    cases halts with
    | waits found ahead ends =>
      have standing : rehearsal.EndsAt id { session with isCancelled := true } due := ends
      have turns := turn?_of_stopped found rfl live prompt standing ahead
      -- Time passes only while the session has no turn, so only up to the answer it waits for.
      have early (later : Nat) (passes : happening = .pass later) : rehearsal.now < due := by
        subst passes
        have idle : rehearsal.turn? id = none := by
          simpa using allowed.2.1 id (session?_bounds found).2
        rcases turns with ⟨-, early⟩ | ⟨-, action, acts, -⟩
        · exact early
        · simp [idle] at acts
      by_cases fetching : ∃ tick, session.stage = .fetching tick
      · obtain ⟨tick, fetching⟩ := fetching
        obtain ⟨answer, booked⟩ := (endsAt_of_fetching fetching).mp ends
        refine .waits (kept found) ?_
          ((endsAt_of_fetching fetching).mpr ⟨answer, booked.happen own allowed found⟩)
        rw [now_happen]
        cases happening with
        | pass later => exact booked.le_due (early later rfl) allowed.2.2
        | _ => exact ahead
      · have other (tick : Nat) : session.stage ≠ .fetching tick :=
          fun same => fetching ⟨tick, same⟩
        have punctual : due = rehearsal.now := (endsAt_of_other other).mp ends
        have still : (rehearsal.happen happening).now = rehearsal.now := by
          rw [now_happen]
          cases happening with
          | pass later => exact absurd (early later rfl) (by simp [punctual])
          | _ => rfl
        refine .waits (kept found) ?_ ((endsAt_of_other other).mpr ?_)
        · rw [still]
          exact ahead
        · rw [still, punctual]
    | ended found past =>
      refine .ended (kept found) (Nat.le_trans past ?_)
      rw [now_happen]
      cases happening with
      | pass later => exact allowed.1
      | _ => exact Nat.le_refl _

theorem Halts.settle (halts : rehearsal.Halts id session due) (idle : rehearsal.errands = [])
    (quiet : rehearsal.settle.ready = []) :
    rehearsal.settle.viewer.session? id =
        some { session with isCancelled := true, stage := .over .cancelled } ↔
      due ≤ rehearsal.now := by
  obtain ⟨⟨clock, settled⟩, awake⟩ := settle_induction
    (motive := fun reached => reached.now = rehearsal.now ∧ reached.Halts id session due)
    (fun reached other kept => ⟨now_happen.trans kept.1, kept.2.happen live prompt trivial⟩)
    (fun reached ready kept => ⟨kept.1, match kept.2 with
      | .waits found ahead ends => .waits found ahead ends
      | .ended found past => .ended found past⟩)
    idle ⟨rfl, halts⟩
  rw [← clock]
  cases settled with
  | ended found past => exact ⟨fun _ => past, fun _ => found⟩
  | waits found ahead ends =>
    have unloaded : session.stage ≠ .loading := by
      intro loading
      simp [loading, Stage.isLive] at live
    have stuck := turn?_of_settled awake quiet found unloaded
    have standing : rehearsal.settle.EndsAt id { session with isCancelled := true } due := ends
    rcases turn?_of_stopped found rfl live prompt standing ahead with
      ⟨-, early⟩ | ⟨-, action, acts, -⟩
    · refine ⟨fun ended => ?_, fun past => absurd past (Nat.not_le_of_lt early)⟩
      have stood := congrArg (Option.map Session.stage) (found.symm.trans ended)
      have finished : session.stage = .over .cancelled := Option.some.inj stood
      simp [finished, Stage.isLive] at live
    · simp [stuck] at acts

theorem ownTimes_of_silent {α : Type} {record : Viewer → List α}
    (silent : ∀ {before after : Rehearsal}, Silent before after →
      record after.viewer = record before.viewer)
    (halts : rehearsal.Halts id session due) (allowed : Throughout Allows rehearsal course) :
    ownTimes record id rehearsal course = [] := by
  induction course generalizing rehearsal with
  | nil => rfl
  | cons first rest ih =>
    have later := ih (halts.happen live prompt allowed.1) allowed.2
    rw [ownTimes, gathered, ← ownTimes, later, List.append_nil]
    split
    · obtain rfl : first = .turn id := by
        cases first <;> simp_all [Happening.session?]
      rw [silent (halts.turn live prompt).1, List.drop_length, List.map_nil]
    · rfl

theorem Halts.follow (halts : rehearsal.Halts id session due)
    (allowed : Throughout Allows rehearsal course) :
    (rehearsal.follow course).Halts id session due := by
  induction course generalizing rehearsal with
  | nil => exact halts
  | cons first rest ih => exact ih (halts.happen live prompt allowed.1) allowed.2

end

theorem halts_of_stop (punctual : rehearsal.Punctual) (host : action.session? = none)
    (proper : action.isProper)
    (held : rehearsal.viewer.current.map Slot.session = some id)
    (stops : rehearsal.viewer.stops rehearsal.platform.answers action)
    (found : rehearsal.viewer.session? id = some session) :
    ∃ due, rehearsal.EndsAt id session due ∧
      (rehearsal.happen (.request action)).Halts id session due := by
  have stopped : (rehearsal.happen (.request action)).viewer.session? id =
      some { session with isCancelled := true } := by
    rw [current_session] at held
    simp only [happen, perform_viewer]
    rw [session?_act_of_host host proper _ found, if_pos ⟨stops, held⟩]
  have clock : (rehearsal.happen (.request action)).now = rehearsal.now := now_happen
  by_cases fetching : ∃ tick, session.stage = .fetching tick
  · obtain ⟨tick, fetching⟩ := fetching
    obtain ⟨due, answer, booked, ahead⟩ := punctual id session tick found fetching
    have foreign : (Happening.request action).session? ≠ some id := by simp [Happening.session?]
    refine ⟨due, (endsAt_of_fetching fetching).mpr ⟨answer, booked⟩, .waits stopped ?_ ?_⟩
    · rw [clock]
      exact ahead
    · exact (endsAt_of_fetching fetching).mpr
        ⟨answer, booked.happen foreign ⟨host, proper⟩ found⟩
  · have other (tick : Nat) : session.stage ≠ .fetching tick := fun same => fetching ⟨tick, same⟩
    refine ⟨rehearsal.now, (endsAt_of_other other).mpr rfl, .waits stopped (Nat.le_of_eq clock) ?_⟩
    exact (endsAt_of_other other).mpr clock.symm

/-! ## Sessions that have had no turn -/

theorem begin_sessions (viewer : Viewer) (id : SessionId) (session : Session) :
    ∃ stage, stage ≠ .ready ∧
      (viewer.begin id session).sessions = (viewer.setStage id stage).sessions := by
  unfold begin
  split
  · exact ⟨.over .cancelled, by simp, conclude_sessions viewer id .cancelled⟩
  · split
    · exact ⟨.fetching 0, by simp, rfl⟩
    · exact ⟨.opening, by simp, rfl⟩

theorem turned_of_turn (acts : rehearsal.turn? id = some action) :
    ∃ session, (rehearsal.perform action).viewer.session? id = some session ∧
      session.stage ≠ .ready := by
  have own := session?_of_turn? acts
  obtain ⟨session, found, -⟩ := Option.bind_eq_some_iff.mp acts
  rw [perform_viewer]
  have ofSetStage {stage : Stage} (turned : stage ≠ .ready)
      (sessions : (rehearsal.viewer.act rehearsal.platform.answers action).sessions =
        (rehearsal.viewer.setStage id stage).sessions) :
      ∃ session, (rehearsal.viewer.act rehearsal.platform.answers action).session? id =
        some session ∧ session.stage ≠ .ready :=
    ⟨{ session with stage }, by rw [session?_congr id sessions, session?_setStage_self found],
      turned⟩
  rcases restaged_of_turn rehearsal.viewer rehearsal.platform.answers own
    with same | ⟨stage, allowed, restaged⟩
  · by_cases ready : session.stage = .ready
    · obtain rfl := Option.some.inj (acts.symm.trans (turn?_of_ready found ready))
      obtain ⟨stage, turned, sessions⟩ := begin_sessions rehearsal.viewer id session
      have begins : rehearsal.viewer.act rehearsal.platform.answers (.start id) =
          rehearsal.viewer.begin id session := by
        simp [act, turn, found, ready]
      exact ofSetStage turned (begins ▸ sessions)
    · exact ⟨session, (session?_congr id same).trans found, ready⟩
  · exact ofSetStage allowed.1 restaged

theorem ownTimes_of_unturned {α : Type} {record : Viewer → List α}
    (allowed : Throughout Allows start course)
    (unturned : ∀ session, (start.follow course).viewer.session? id = some session →
      session.stage = .ready) :
    ownTimes record id start course = [] := by
  induction course using List.reverseRecOn with
  | nil => rfl
  | append_singleton course happening ih =>
    obtain ⟨earlier, latest⟩ := throughout_concat.mp allowed
    rw [follow_concat] at unturned
    by_cases own : happening.session? = some id
    · obtain rfl : happening = .turn id := by
        cases happening <;> simp_all [Happening.session?]
      cases acts : (start.follow course).turn? id with
      | none =>
        have same : (start.follow course).happen (.turn id) = start.follow course := by
          simp [happen, runTask, acts]
        have adds : record ((start.follow course).happen (.turn id)).viewer =
            record (start.follow course).viewer ++ [] := by
          rw [same, List.append_nil]
        rw [ownTimes_concat rfl adds, List.map_nil, List.append_nil]
        exact ih earlier (same ▸ unturned)
      | some action =>
        have turned : (start.follow course).happen (.turn id) =
            (start.follow course).perform action := by
          simp [happen, runTask, acts]
        obtain ⟨session, found, past⟩ := turned_of_turn acts
        exact absurd (unturned session (turned ▸ found)) past
    · rw [ownTimes_concat_of_other own]
      refine ih earlier fun session found => ?_
      rcases session?_of_foreign own latest found with same | stopped
      · exact unturned session same
      · exact unturned { session with isCancelled := true } stopped

/-! ## Rehearsals with a stop -/

theorem follow_errands : (start.follow course).errands = start.errands := by
  induction course generalizing start with
  | nil => rfl
  | cons first rest ih =>
    refine ih.trans ?_
    cases first with
    | turn id => exact turn_errands
    | request action => exact perform_errands
    | script | pass => rfl

/-- A session that has been stopped ends when it is due, with a turn that reads nothing, and it has
ended once everything waits. -/
structure HaltsSilently (rehearsal : Rehearsal) (id : SessionId) (session : Session) (due : Nat) :
    Prop where
  halts : rehearsal.Halts id session due
  silent : Silent rehearsal (rehearsal.happen (.turn id))
  turn : (rehearsal.happen (.turn id)).viewer.session? id =
      some { session with isCancelled := true, stage := .over .cancelled } ↔
    due ≤ rehearsal.now
  settle : rehearsal.settle.ready = [] →
    (rehearsal.settle.viewer.session? id =
        some { session with isCancelled := true, stage := .over .cancelled } ↔
      due ≤ rehearsal.now)

theorem stopped_session_halts (config : ViewerConfig) (course : List Happening)
    (allowed : Throughout Allows ({ viewer := { config } } : Rehearsal) course)
    (scripted : Throughout Scripted ({ viewer := { config } } : Rehearsal) course) :
    let start : Rehearsal := { viewer := { config } }
    let later := start.follow course
    (∀ before stop after id session, course = before ++ .request stop :: after →
      let stopped := start.follow before
      stopped.viewer.current.map Slot.session = some id →
      stopped.viewer.stops stopped.platform.answers stop →
      stopped.viewer.session? id = some session →
      session.plan.isSome → session.isOver = false →
      (∃ due, stopped.EndsAt id session due ∧ later.HaltsSilently id session due) ∧
      ownTimes Viewer.calls id start course = ownTimes Viewer.calls id start before ∧
      ownTimes Viewer.scrolls id start course = ownTimes Viewer.scrolls id start before ∧
      (session.stage = .ready → ownTimes Viewer.calls id start course = [])) ∧
    (∀ earlier after id stream session, course = earlier ++ after →
      Holds (start.follow earlier).viewer id stream →
      later.viewer.session? id = some session → session.isOver → later.Dropped stream) := by
  intro start later
  constructor
  · rintro before stop after id session rfl stopped held stops found planned ongoing
    obtain ⟨allowedBefore, ⟨host, proper⟩, allowedAfter⟩ := throughout_append.mp allowed
    have coherent : Coherent .prompt stopped.viewer :=
      prompt_follow (coherent_start config) allowedBefore
    have unpolled : start.Punctual := by
      intro id session tick found
      cases id <;> simp [start, session?] at found
    have punctual : stopped.Punctual := punctual_follow unpolled allowedBefore
    have fits := (coherent.fits found).2
    have live : session.stage.isLive := by
      unfold Session.isOver at ongoing
      unfold Stage.isLive
      split <;> simp_all
    have prompt (next : Option Nat) : session.stage ≠ .listing next := by
      intro listing
      rw [listing] at fits
      exact fits.2
    obtain ⟨due, ends, halted⟩ := halts_of_stop punctual host proper held stops found
    have followed : later = (stopped.happen (.request stop)).follow after := follow_append
    have halts : later.Halts id session due := followed ▸ halted.follow live prompt allowedAfter
    have idle : later.errands = [] := follow_errands
    have adds {α : Type} (record : Viewer → List α)
        (silent : ∀ {before after : Rehearsal}, Silent before after →
          record after.viewer = record before.viewer) :
        ownTimes record id start (before ++ .request stop :: after) =
          ownTimes record id start before := by
      have noneAfter : ownTimes record id stopped (.request stop :: after) = [] := by
        have later := ownTimes_of_silent live prompt silent halted allowedAfter
        rw [ownTimes, gathered, ← ownTimes, later]
        simp [Happening.session?]
      rw [ownTimes_append, noneAfter, List.append_nil]
    have calls := adds Viewer.calls Silent.calls
    refine ⟨⟨due, ends, halts, (halts.turn live prompt).1, (halts.turn live prompt).2.2,
      halts.settle live prompt idle⟩, calls, adds Viewer.scrolls Silent.scrolls, fun ready => ?_⟩
    rw [calls]
    refine ownTimes_of_unturned allowedBefore fun other located => ?_
    rw [← Option.some.inj (found.symm.trans located), ready]
  · rintro earlier after id stream session rfl holds found finished
    obtain ⟨allowedBefore, allowedAfter⟩ := throughout_append.mp allowed
    obtain ⟨scriptedBefore, scriptedAfter⟩ := throughout_append.mp scripted
    have tidy : (start.follow earlier).Tidy :=
      (tidy_start config).follow allowedBefore scriptedBefore
    have owned : (start.follow earlier).Owned id stream :=
      ⟨tidy.held id stream holds, fun other second => tidy.sole other id stream second holds⟩
    have kept := owned.follow tidy allowedAfter scriptedAfter
    rw [← follow_append] at kept
    exact kept.dropped found finished

theorem cancelled_stream_halts :
    let queued := (({} : Platform).cue (fun _ => false) (.liveStream "j1")).1
    let fed := (queued.cue (fun _ => false) (.feed "j1" [.ok ⟨"late", .building, false⟩])).1
    let before : List Happening :=
      [.script queued, .script fed, .request (.toggle "j1" .building), .turn 1, .turn 1]
    let start : Rehearsal := { viewer := { config := {} } }
    let stopped := start.follow (before ++ [.request .cancel])
    let later := start.follow (before ++ [.request .cancel, .turn 1])
    let session : Session :=
      { job := "j1"
        challenge := none
        viewport := none
        plan := some .pushStream
        stage := .receiving 0 }
    (∃ due, (start.follow before).EndsAt 1 session due ∧ stopped.HaltsSilently 1 session due) ∧
      stopped.viewer.session? 1 = some { session with isCancelled := true } ∧
      stopped.settle.ready = [] ∧
      stopped.settle.viewer.session? 1 =
        some { session with isCancelled := true, stage := .over .cancelled } ∧
      stopped.settle.viewer = later.viewer ∧ later.platform.feeds "j1" = some 0 ∧
      later.Dropped 0 := by
  intro queued fed before start stopped later session
  have allowed : Throughout Allows start (before ++ [.request .cancel]) := by decide
  have scripted : Throughout Scripted start (before ++ [.request .cancel]) :=
    ⟨⟨_, rfl⟩, ⟨_, rfl⟩, trivial, trivial, trivial, trivial, trivial⟩
  obtain ⟨stops, -⟩ := stopped_session_halts {} _ allowed scripted
  obtain ⟨⟨due, ends, halts⟩, -⟩ := stops before .cancel [] 1 session rfl (by decide) (by decide)
    (by decide) rfl rfl
  have quiet : stopped.settle.ready = [] := by decide
  have past : due ≤ stopped.now := by
    rw [(endsAt_of_other (by simp [session])).mp ends]
    decide
  have ended := (halts.settle quiet).mpr past
  have settled : stopped.settle.viewer = later.viewer := by decide
  have longer : Throughout Scripted start (before ++ [.request .cancel, .turn 1]) :=
    ⟨⟨_, rfl⟩, ⟨_, rfl⟩, trivial, trivial, trivial, trivial, trivial, trivial⟩
  obtain ⟨-, drops⟩ := stopped_session_halts {} _ (by decide) longer
  have dropped := drops before [.request .cancel, .turn 1] 1 0 _ rfl ⟨session, by decide, rfl⟩
    (settled ▸ ended) rfl
  exact ⟨⟨due, ends, halts⟩, by decide, quiet, ended, settled, by decide, dropped⟩

end Rehearsal

end BuildWatch
