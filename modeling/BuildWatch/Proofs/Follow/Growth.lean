import BuildWatch.Proofs.Follow.Moves

namespace BuildWatch

structure Session.Grows (before after : Session) : Prop where
  job : after.job = before.job
  plan : after.plan = before.plan
  sequel : after.sequel = before.sequel
  cancelled : before.isCancelled → after.isCancelled
  finished : before.isOver → after.stage = before.stage
  listing : before.isRunning = false → ∀ next, after.stage = .listing next →
    before.stage = .listing next

namespace Session.Grows

theorem refl (session : Session) : session.Grows session :=
  ⟨rfl, rfl, rfl, id, fun _ => rfl, fun _ _ same => same⟩

theorem halted {before after : Session} (grows : before.Grows after)
    (halted : before.isRunning = false) : after.isRunning = false := by
  cases cancelled : before.isCancelled with
  | true => simp [isRunning, grows.cancelled cancelled]
  | false =>
    have finished : before.isOver := by simpa [isRunning, cancelled] using halted
    have same := grows.finished finished
    have later : after.isOver := by rwa [isOver, same]
    simp [isRunning, later]

theorem trans {first middle last : Session} (left : first.Grows middle)
    (right : middle.Grows last) : first.Grows last where
  job := right.job.trans left.job
  plan := right.plan.trans left.plan
  sequel := right.sequel.trans left.sequel
  cancelled := right.cancelled ∘ left.cancelled
  finished isOver := by
    have same := left.finished isOver
    have later : middle.isOver := by
      rw [← isOver, Session.isOver, Session.isOver, same]
    exact (right.finished later).trans same
  listing halted next waits :=
    left.listing halted next (right.listing (left.halted halted) next waits)

theorem loading {may : Leeway} {before after : Session} (grows : before.Grows after)
    (fits : before.Fits may) (later : after.Fits may) (loading : after.stage = .loading) :
    before.stage = .loading := by
  have unplanned : before.plan = none := by rw [← grows.plan, later.unplanned loading]
  cases finished : before.isOver with
  | true => rw [← grows.finished finished, loading]
  | false =>
    have said := fits.2
    cases stageEq : before.stage <;> simp_all [isOver]

theorem stage {session : Session} {stage : Stage} (ongoing : session.isOver = false)
    (asks : ∀ next, stage = .listing next → session.isCancelled = false) :
    session.Grows { session with stage } where
  job := rfl
  plan := rfl
  sequel := rfl
  cancelled := id
  finished isOver := by simp [ongoing] at isOver
  listing halted next waits := by simp [isRunning, ongoing, asks next waits] at halted

theorem cancel (session : Session) : session.Grows { session with isCancelled := true } :=
  ⟨rfl, rfl, rfl, fun _ => rfl, fun _ => rfl, fun _ _ same => same⟩

end Session.Grows

namespace Viewer

def Grows (before after : Viewer) : Prop :=
  ∀ ⦃id session⦄, before.session? id = some session →
    ∃ later, after.session? id = some later ∧ session.Grows later

variable {viewer after : Viewer} {id : SessionId} {session : Session}

namespace Grows

theorem refl (viewer : Viewer) : viewer.Grows viewer :=
  fun _ session found => ⟨session, found, .refl session⟩

theorem trans {first middle last : Viewer} (left : first.Grows middle) (right : middle.Grows last) :
    first.Grows last := by
  intro id session found
  obtain ⟨next, found, growth⟩ := left found
  obtain ⟨later, found, further⟩ := right found
  exact ⟨later, found, growth.trans further⟩

theorem of_sessions (same : after.sessions = viewer.sessions) : viewer.Grows after :=
  fun id session found => ⟨session, (session?_congr id same).trans found, .refl session⟩

theorem setStage {stage : Stage} (found : viewer.session? id = some session)
    (ongoing : session.isOver = false)
    (asks : ∀ next, stage = .listing next → session.isCancelled = false) :
    viewer.Grows (viewer.setStage id stage) := by
  intro other entry located
  refine ⟨_, by rw [session?_setStage, located, Option.map_some], ?_⟩
  split
  · rename_i same
    obtain rfl : entry = session := Option.some.inj (located.symm.trans (same ▸ found))
    exact .stage ongoing asks
  · exact .refl entry

theorem stop (viewer : Viewer) : viewer.Grows viewer.stop := by
  intro other entry located
  refine ⟨_, by rw [session?_stop, located, Option.map_some], ?_⟩
  split
  · exact .cancel entry
  · exact .refl entry

theorem takeOver (viewer : Viewer) (job : String) (status : Status) (sequel : List ViewEvent) :
    viewer.Grows (viewer.takeOver job status sequel) := by
  intro other entry located
  refine ⟨entry, ?_, .refl entry⟩
  have bound := (session?_bounds located).2
  rw [session?_takeOver, if_neg (Nat.ne_of_lt (Nat.lt_succ_of_le bound)), located]

end Grows

theorem Move.grows {may : Leeway} (move : Move may viewer after) :
    viewer.Grows after := by
  cases move with
  | aside alike => exact .of_sessions alike.sessions
  | advance found ongoing _ _ waits =>
    exact .setStage found ongoing fun next listing => (waits next listing).2
  | conclude found ongoing =>
    exact (Grows.setStage found ongoing (by simp)).trans
      (.of_sessions (conclude_sessions _ _ _))
  | chunk | snapshot => exact .of_sessions rfl
  | @loaded id session result found loading =>
    have ongoing := Session.isOver_of_loading loading
    exact (Grows.setStage found ongoing (by simp)).trans
      (.of_sessions (loaded_sessions _ _ _ _))
  | close | leave => exact (Grows.stop viewer).trans (.of_sessions rfl)
  | drop => exact .stop viewer
  | takeOver => exact (Grows.stop viewer).trans (.takeOver _ _ _ _)

theorem Moves.grows {may : Leeway} (moves : Moves may viewer after) :
    viewer.Grows after := by
  induction moves with
  | refl => exact .refl viewer
  | tail _ move ih => exact ih.trans move.grows

end Viewer

end BuildWatch
