import BuildWatch.Proofs.Rehearsal.Clock

namespace BuildWatch.Rehearsal

open Viewer

variable {rehearsal : Rehearsal} {id : SessionId} {session : Session} {action : Action}

@[simp] theorem perform_errands : (rehearsal.perform action).errands = rehearsal.errands := by
  unfold perform wake book
  dsimp only
  split
  · rfl
  · split
    · rfl
    · split <;> rfl

@[simp] theorem turn_errands : (rehearsal.happen (.turn id)).errands = rehearsal.errands := by
  simp only [happen, runTask]
  split
  · rfl
  · exact perform_errands

def Awake (rehearsal : Rehearsal) : Prop :=
  ∀ task ∈ rehearsal.tasks, rehearsal.canRun task → task ∈ rehearsal.ready

theorem awake_wake (rehearsal : Rehearsal) : rehearsal.wake.Awake := by
  intro task listed runs
  by_cases waiting : task ∈ rehearsal.ready
  · exact List.mem_append_left _ waiting
  · have running : rehearsal.canRun task := runs
    have woken : (!rehearsal.ready.contains task && rehearsal.canRun task) = true := by
      simp [waiting, running]
    exact List.mem_append_right _ (List.mem_filter.mpr ⟨listed, woken⟩)

theorem awake_perform : (rehearsal.perform action).Awake :=
  awake_wake _

theorem step_cases (idle : rehearsal.errands = []) :
    (rehearsal.ready = [] ∧ rehearsal.step = rehearsal) ∨
    (∃ id action, rehearsal.turn? id = some action ∧
      rehearsal.step = rehearsal.happen (.turn id)) ∨
    ∃ task rest, rehearsal.ready = task :: rest ∧ rehearsal.canRun task = false ∧
      rehearsal.step = { rehearsal with ready := rest } := by
  unfold step
  cases queue : rehearsal.ready with
  | nil => exact .inl ⟨rfl, rfl⟩
  | cons task rest =>
    right
    dsimp only
    cases runs : rehearsal.canRun task with
    | false => exact .inr ⟨task, rest, rfl, runs, rfl⟩
    | true =>
      left
      cases task with
      | errand index => simp [canRun, idle] at runs
      | session id =>
        simp only [canRun, Bool.and_eq_true, Option.isSome_iff_exists] at runs
        obtain ⟨-, action, acts⟩ := runs
        exact ⟨id, action, acts, rfl⟩

theorem awake_step (idle : rehearsal.errands = []) (awake : rehearsal.Awake) :
    rehearsal.step.Awake := by
  rcases step_cases idle with
    ⟨-, same⟩ | ⟨id, action, acts, turned⟩ | ⟨task, rest, queue, stuck, popped⟩
  · rwa [same]
  · rw [turned]
    simp only [happen, runTask, acts]
    exact awake_perform
  · rw [popped]
    intro other listed runs
    have waiting : other ∈ rehearsal.ready := awake other listed runs
    rw [queue] at waiting
    refine (List.mem_cons.mp waiting).resolve_left fun same => ?_
    have running : rehearsal.canRun other := runs
    simp [same, stuck] at running

/-- What the turns of sessions keep, and what does not depend on who is ready. -/
theorem settle_induction {motive : Rehearsal → Prop}
    (turn : ∀ rehearsal id, motive rehearsal → motive (rehearsal.happen (.turn id)))
    (queue : ∀ rehearsal ready, motive rehearsal → motive { rehearsal with ready })
    (idle : rehearsal.errands = []) (start : motive rehearsal) :
    motive rehearsal.settle ∧ rehearsal.settle.Awake := by
  have within (fuel : Nat) : ∀ rehearsal : Rehearsal,
      rehearsal.errands = [] → motive rehearsal → rehearsal.Awake →
        motive (rehearsal.settleWithin fuel) ∧ (rehearsal.settleWithin fuel).Awake := by
    induction fuel with
    | zero => exact fun _ _ kept awake => ⟨kept, awake⟩
    | succ fuel ih =>
      intro rehearsal idle kept awake
      unfold settleWithin
      split
      · exact ⟨kept, awake⟩
      · have next : rehearsal.step.errands = [] ∧ motive rehearsal.step := by
          rcases step_cases idle with
            ⟨-, same⟩ | ⟨id, action, acts, turned⟩ | ⟨task, rest, -, -, popped⟩
          · rw [same]
            exact ⟨idle, kept⟩
          · rw [turned, turn_errands]
            exact ⟨idle, turn rehearsal id kept⟩
          · rw [popped]
            exact ⟨idle, queue rehearsal rest kept⟩
        exact ih _ next.1 next.2 (awake_step idle awake)
  exact within _ rehearsal.wake idle (queue rehearsal _ start) (awake_wake rehearsal)

theorem turn?_of_settled (awake : rehearsal.Awake) (quiet : rehearsal.ready = [])
    (found : rehearsal.viewer.session? id = some session) (live : session.stage ≠ .loading) :
    rehearsal.turn? id = none := by
  cases acts : rehearsal.turn? id with
  | none => rfl
  | some action =>
    obtain ⟨n, rfl⟩ : ∃ n, id = n + 1 := Nat.exists_eq_add_one.mpr (session?_bounds found).1
    have known : n < rehearsal.viewer.sessions.length := (session?_bounds found).2
    have listed : Task.session (n + 1) ∈ rehearsal.tasks :=
      List.mem_append_left _ (List.mem_map_of_mem (List.mem_range.mpr known))
    have runs : rehearsal.canRun (.session (n + 1)) := by
      simp [canRun, isLoad, found, live, acts]
    simpa [quiet] using awake _ listed runs

end BuildWatch.Rehearsal
