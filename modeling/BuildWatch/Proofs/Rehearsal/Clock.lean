import BuildWatch.Proofs.Follow.Ledger
import BuildWatch.Rehearsal.Basic

/-!
# The clock of a rehearsal

What can happen in a rehearsal: a session has its turn, the host asks for something, the script is
changed, time passes. No time passes as long as a session can run, nor past an appointment.

* `Booked.perform`: an appointment stays until its session has a turn.
* `booked_of_fetching`, `booked_of_resting`: the appointments that a turn makes.
-/

namespace BuildWatch.Rehearsal

open Viewer

/-! ## What can happen -/

inductive Happening where
  | turn (session : SessionId)
  | request (action : Action)
  | script (platform : Platform)
  | pass (later : Nat)

def Happening.session? : Happening → Option SessionId
  | turn session => some session
  | _ => none

def happen (rehearsal : Rehearsal) : Happening → Rehearsal
  | .turn id => rehearsal.runTask (.session id)
  | .request action => rehearsal.perform action
  | .script platform => { rehearsal with platform }.wake
  | .pass later => { rehearsal with now := later }.wake

def Allows (rehearsal : Rehearsal) : Happening → Prop
  | .turn _ | .script _ => True
  | .request action => action.session? = none ∧ action.isProper
  | .pass later => rehearsal.now ≤ later ∧
    (∀ id ≤ rehearsal.viewer.sessions.length, (rehearsal.turn? id).isNone) ∧
    ∀ due ∈ rehearsal.nextDue?, later ≤ due

instance (rehearsal : Rehearsal) : (happening : Happening) → Decidable (rehearsal.Allows happening)
  | .turn _ | .script _ => .isTrue trivial
  | .request _ | .pass _ => inferInstanceAs (Decidable (_ ∧ _))

def follow (rehearsal : Rehearsal) (course : List Happening) : Rehearsal :=
  course.foldl happen rehearsal

/-- Whether something holds of everything that happens, at the time it happens. -/
def Throughout (holds : Rehearsal → Happening → Prop) : Rehearsal → List Happening → Prop
  | _, [] => True
  | rehearsal, happening :: rest =>
    holds rehearsal happening ∧ Throughout holds (rehearsal.happen happening) rest

instance decidableThroughout (holds : Rehearsal → Happening → Prop)
    [∀ rehearsal happening, Decidable (holds rehearsal happening)] (rehearsal : Rehearsal) :
    (course : List Happening) → Decidable (Throughout holds rehearsal course)
  | [] => .isTrue trivial
  | happening :: rest =>
    have := decidableThroughout holds (rehearsal.happen happening) rest
    inferInstanceAs (Decidable (_ ∧ _))

/-- What the turns of a session have added to a record in the course of a rehearsal, with the time
of each entry. -/
def ownTimes {α : Type} (record : Viewer → List α) (id : SessionId) :
    Rehearsal → List Happening → List (Nat × α) :=
  gathered happen fun rehearsal happening =>
    if happening.session? = some id then
      ((record (rehearsal.happen happening).viewer).drop (record rehearsal.viewer).length).map
        fun entry => (rehearsal.now, entry)
    else []

variable {rehearsal : Rehearsal} {id other : SessionId} {session : Session} {action : Action}
  {happening : Happening} {course : List Happening}

theorem follow_concat :
    rehearsal.follow (course ++ [happening]) = (rehearsal.follow course).happen happening :=
  List.foldl_append

theorem throughout_concat {holds : Rehearsal → Happening → Prop} :
    Throughout holds rehearsal (course ++ [happening]) ↔
      Throughout holds rehearsal course ∧ holds (rehearsal.follow course) happening := by
  induction course generalizing rehearsal with
  | nil => simp [Throughout, follow]
  | cons first rest ih => simp [Throughout, ih, follow, and_assoc]

theorem follow_append {later : List Happening} :
    rehearsal.follow (course ++ later) = (rehearsal.follow course).follow later :=
  List.foldl_append

theorem throughout_append {holds : Rehearsal → Happening → Prop} {later : List Happening} :
    Throughout holds rehearsal (course ++ later) ↔
      Throughout holds rehearsal course ∧ Throughout holds (rehearsal.follow course) later := by
  induction course generalizing rehearsal with
  | nil => simp [Throughout, Rehearsal.follow]
  | cons first rest ih => simp [Throughout, Rehearsal.follow, ih, and_assoc]

section
variable {α : Type} {record : Viewer → List α}

theorem ownTimes_append {later : List Happening} :
    ownTimes record id rehearsal (course ++ later) = ownTimes record id rehearsal course ++
      ownTimes record id (rehearsal.follow course) later := by
  induction course generalizing rehearsal with
  | nil => rfl
  | cons first rest ih =>
    have tail := @ih (rehearsal.happen first)
    simp only [ownTimes] at tail
    simp only [ownTimes, List.cons_append, gathered, tail, List.append_assoc]
    rfl

theorem ownTimes_concat_of_other (foreign : happening.session? ≠ some id) :
    ownTimes record id rehearsal (course ++ [happening]) = ownTimes record id rehearsal course := by
  simp [ownTimes, gathered_concat, foreign]

theorem ownTimes_concat {added : List α} (own : happening.session? = some id)
    (grows : record ((rehearsal.follow course).happen happening).viewer =
      record (rehearsal.follow course).viewer ++ added) :
    ownTimes record id rehearsal (course ++ [happening]) = ownTimes record id rehearsal course ++
      added.map fun entry => ((rehearsal.follow course).now, entry) := by
  rw [ownTimes, gathered_concat, if_pos own]
  change _ ++ ((record ((rehearsal.follow course).happen happening).viewer).drop _).map _ = _
  rw [grows]
  congr 2
  exact List.drop_left

end

/-! ## What happens to the viewer and the clock -/

@[simp] theorem book_viewer : (rehearsal.book id).viewer = rehearsal.viewer := by
  unfold book
  dsimp only
  split
  · rfl
  · split <;> rfl

@[simp] theorem book_now : (rehearsal.book id).now = rehearsal.now := by
  unfold book
  dsimp only
  split
  · rfl
  · split <;> rfl

@[simp] theorem perform_viewer :
    (rehearsal.perform action).viewer = rehearsal.viewer.act rehearsal.platform.answers action := by
  unfold perform wake
  dsimp only
  split <;> simp

@[simp] theorem perform_now : (rehearsal.perform action).now = rehearsal.now := by
  unfold perform wake
  dsimp only
  split <;> simp

theorem session?_of_turn? (turn : rehearsal.turn? id = some action) :
    action.session? = some id := by
  unfold turn? at turn
  obtain ⟨session, -, turn⟩ := Option.bind_eq_some_iff.mp turn
  split at turn <;> try split at turn
  all_goals simp only [Option.map_eq_some_iff, Option.bind_eq_some_iff, Option.some.injEq,
    reduceCtorEq, bind, pure] at turn
  all_goals first
    | exact turn ▸ rfl
    | obtain ⟨_, -, rfl⟩ := turn; rfl
    | obtain ⟨_, -, _, -, rfl⟩ := turn; rfl

theorem isProper_of_session? (own : action.session? = some id) : action.isProper := by
  cases action <;> first | rfl | simp [Action.session?] at own

/-! ## Appointments -/

def Booked (rehearsal : Rehearsal) (id : SessionId) (due : Nat)
    (answer : Option (Except Fault Snapshot)) : Prop :=
  rehearsal.agenda.filter (fun entry => entry.session == id) = [{ session := id, due, answer }]

variable {due : Nat} {answer : Option (Except Fault Snapshot)}

theorem Booked.due?_eq (booked : rehearsal.Booked id due answer) : rehearsal.due? id =
    if due ≤ rehearsal.now then some { session := id, due, answer } else none := by
  have only : rehearsal.due? id = (rehearsal.agenda.filter fun entry => entry.session == id).find?
      fun entry => entry.due ≤ rehearsal.now := by
    rw [due?, List.find?_filter]
    congr 1
    funext entry
    by_cases own : entry.session = id <;> simp [own]
  rw [only, booked]
  by_cases arrived : due ≤ rehearsal.now <;> simp [arrived]

theorem Booked.le_due (booked : rehearsal.Booked id due answer) (ahead : rehearsal.now < due)
    {later : Nat} (next : ∀ first ∈ rehearsal.nextDue?, later ≤ first) : later ≤ due := by
  have listed : ⟨id, due, answer⟩ ∈ rehearsal.agenda := by
    have member : ⟨id, due, answer⟩ ∈ rehearsal.agenda.filter fun entry => entry.session == id := by
      rw [booked]
      exact List.mem_singleton_self _
    exact (List.mem_filter.mp member).1
  have awaited : due ∈ (rehearsal.agenda.map Appointment.due).filter (rehearsal.now < ·) :=
    List.mem_filter.mpr ⟨List.mem_map_of_mem listed, by simpa using ahead⟩
  obtain ⟨first, firstEq⟩ := Option.isSome_iff_exists.mp
    (List.isSome_min?_of_mem awaited)
  exact Nat.le_trans (next first firstEq) ((List.min?_eq_some_iff.mp firstEq).2 due awaited)

section
variable (found : rehearsal.viewer.session? id = some session)
include found

theorem turn?_of_ready (ready : session.stage = .ready) :
    rehearsal.turn? id = some (.start id) := by
  simp [turn?, found, ready]

theorem turn?_of_over {outcome : Outcome} (finished : session.stage = .over outcome) :
    rehearsal.turn? id = none := by
  simp [turn?, found, finished]

theorem turn?_of_fetching {tick : Nat} {result : Except Fault Snapshot}
    (fetching : session.stage = .fetching tick)
    (booked : rehearsal.Booked id due (some result)) : rehearsal.turn? id =
      if due ≤ rehearsal.now then some (.answer id result) else none := by
  by_cases arrived : due ≤ rehearsal.now <;>
    simp [turn?, found, fetching, booked.due?_eq, arrived]

theorem turn?_of_resting {tick : Nat} (resting : session.stage = .resting tick)
    (uncancelled : session.isCancelled = false) (booked : rehearsal.Booked id due none) :
    rehearsal.turn? id = if due ≤ rehearsal.now then some (.wake id) else none := by
  by_cases arrived : due ≤ rehearsal.now <;>
    simp [turn?, found, resting, uncancelled, booked.due?_eq, arrived]

end

theorem filter_book (differs : other ≠ id) :
    (rehearsal.book other).agenda.filter (fun entry => entry.session == id) =
      rehearsal.agenda.filter fun entry => entry.session == id := by
  have cleared : (rehearsal.agenda.filter fun entry => entry.session != other).filter
      (fun entry => entry.session == id) =
        rehearsal.agenda.filter fun entry => entry.session == id := by
    rw [List.filter_filter]
    refine List.filter_congr fun entry _ => ?_
    by_cases own : entry.session = id
    · simp [own, differs.symm]
    · simp [own]
  unfold book
  dsimp only
  split
  · exact cleared
  · split <;> simp [differs, cleared]

theorem filter_perform (foreign : participant rehearsal.viewer
      (rehearsal.viewer.act rehearsal.platform.answers action) action ≠ id) :
    (rehearsal.perform action).agenda.filter (fun entry => entry.session == id) =
      rehearsal.agenda.filter fun entry => entry.session == id := by
  unfold perform wake
  dsimp only
  split
  · rfl
  · exact filter_book foreign

theorem Platform.fetch_delay (platform : Platform) (job : String) :
    (platform.fetch job).2.delay = platform.delay := by
  unfold fetch
  split <;> rfl

theorem participant_of_session? {before after : Viewer} (own : action.session? = some id) :
    participant before after action = id := by
  cases action <;> simp_all [Action.session?, participant]

section
variable (own : action.session? = some id)
  (found : (rehearsal.viewer.act rehearsal.platform.answers action).session? id = some session)
include own found

theorem agenda_perform : (rehearsal.perform action).agenda =
    ({ rehearsal with
        viewer := rehearsal.viewer.act rehearsal.platform.answers action
        platform := rehearsal.taken action }.book id).agenda := by
  have positive : id ≠ 0 := by
    rintro rfl
    simp [session?] at found
  unfold perform wake
  dsimp only
  rw [participant_of_session? own, if_neg positive]

theorem Booked.of_fetching {tick : Nat} (fetching : session.stage = .fetching tick)
    (kept : rehearsal.taken action = rehearsal.platform) :
    (rehearsal.perform action).Booked id (rehearsal.now + rehearsal.platform.delay)
      (some (rehearsal.platform.fetch session.job).1) := by
  simp [Booked, agenda_perform own found, kept, book, found, fetching, Platform.fetch_delay]

theorem Booked.of_resting {tick : Nat} (resting : session.stage = .resting tick) :
    (rehearsal.perform action).Booked id
      (rehearsal.now + millisAtLeast session.pollPlan.1) none := by
  simp [Booked, agenda_perform own found, book, found, resting]

end

/-! ## What other happenings leave alone -/

theorem participant_of_request {before after : Viewer} (host : action.session? = none)
    (found : before.session? id = some session) : participant before after action ≠ id := by
  have fresh : (if before.sessions.length < after.sessions.length then after.sessions.length
      else 0) ≠ id := by
    obtain ⟨positive, known⟩ := session?_bounds found
    split
    · exact Nat.ne_of_gt (Nat.lt_of_le_of_lt known ‹_›)
    · exact Nat.ne_of_lt positive
  cases action <;> first | exact fresh | simp [Action.session?] at host

theorem filter_happen (foreign : happening.session? ≠ some id)
    (allowed : rehearsal.Allows happening) (found : rehearsal.viewer.session? id = some session) :
    (rehearsal.happen happening).agenda.filter (fun entry => entry.session == id) =
      rehearsal.agenda.filter fun entry => entry.session == id := by
  cases happening with
  | turn other =>
    have differs : other ≠ id := by simpa [Happening.session?] using foreign
    cases acts : rehearsal.turn? other with
    | none => simp [happen, runTask, acts]
    | some action =>
      simp only [happen, runTask, acts]
      refine filter_perform ?_
      rw [participant_of_session? (session?_of_turn? acts)]
      exact differs
  | request action => exact filter_perform (participant_of_request allowed.1 found)
  | script | pass => rfl

/-! ## The viewer in the course of a rehearsal -/

theorem viewer_happen (allowed : rehearsal.Allows happening) :
    (rehearsal.happen happening).viewer = rehearsal.viewer ∨
      ∃ answers action, action.isProper ∧ action.session? = happening.session? ∧
        (rehearsal.happen happening).viewer = rehearsal.viewer.act answers action := by
  cases happening with
  | turn other =>
    cases acts : rehearsal.turn? other with
    | none => simp [happen, runTask, acts]
    | some action =>
      have own := session?_of_turn? acts
      exact .inr ⟨rehearsal.platform.answers, action, isProper_of_session? own, own,
        by simp [happen, runTask, acts]⟩
  | request action =>
    exact .inr ⟨rehearsal.platform.answers, action, allowed.2, allowed.1, perform_viewer⟩
  | script | pass => exact .inl rfl

theorem moves_happen (coherent : Coherent .full rehearsal.viewer)
    (allowed : rehearsal.Allows happening) :
    Moves .full rehearsal.viewer (rehearsal.happen happening).viewer := by
  rcases viewer_happen allowed with same | ⟨answers, action, proper, -, acted⟩
  · rw [same]
  · rw [acted]
    exact coherent.act_moves (.full proper)

theorem coherent_follow (coherent : Coherent .full rehearsal.viewer)
    (allowed : Throughout Allows rehearsal course) :
    Coherent .full (rehearsal.follow course).viewer := by
  induction course generalizing rehearsal with
  | nil => exact coherent
  | cons first rest ih =>
    exact ih ((moves_happen coherent allowed.1).coherent coherent) allowed.2

end BuildWatch.Rehearsal
