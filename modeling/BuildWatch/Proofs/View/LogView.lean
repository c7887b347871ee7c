import BuildWatch.Fault
import BuildWatch.View.Store

namespace BuildWatch

structure LogView where
  selected : Option SelectedLog
  active : Option SessionId
  isFollowing : Bool
  isLoadingLog : Bool
  deriving DecidableEq, Repr

def ViewState.logView (state : ViewState) : LogView where
  selected := state.selected
  active := state.active
  isFollowing := state.isFollowing
  isLoadingLog := state.isLoadingLog

def ViewEvent.sparesLog : ViewEvent → Bool
  | challengeLoadStarted | challengeLoaded _ | challengeLoadFinished | listLoadStarted
  | listLoaded _ | listLoadFinished | listToggled | listExpanded | failed _ => true
  | _ => false

namespace ViewState

variable {state other : ViewState} {event : ViewEvent} {session : SessionId}

theorem logView_reduce_of_spares (spares : event.sparesLog) :
    (state.reduce event).logView = state.logView := by
  cases event <;> first | rfl | simp [ViewEvent.sparesLog] at spares

/-! ## Events of a session -/

theorem accepts_of_inactive (said : event.session? = some session)
    (inactive : state.active ≠ some session) : state.accepts event = false := by
  simp [accepts, said, inactive]

theorem accepts_finished :
    state.accepts (.sessionFinished session) = (state.active == some session) := by
  simp [accepts, ViewEvent.session?]

theorem accepts_snapshot {job : String} {snapshot : Snapshot} :
    state.accepts (.snapshotReceived session job snapshot) = (state.active == some session) := by
  simp [accepts, ViewEvent.session?]

theorem accepts_snapshotFailed {job message : String} {showEmpty : Bool} :
    state.accepts (.snapshotFailed session job message showEmpty) =
      (state.active == some session) := by
  simp [accepts, ViewEvent.session?]

theorem accepts_chunk {text : String} {status : Status} :
    state.accepts (.chunkReceived session text status) =
      (state.active == some session && state.selected.isSome) := by
  simp [accepts, ViewEvent.session?]

theorem reduce_finished_of_active (active : state.active = some session) :
    state.reduce (.sessionFinished session) = state.endSession :=
  reduce_of_accepts (by simp [accepts_finished, active])

theorem reduce_finished_of_inactive (inactive : state.active ≠ some session) :
    state.reduce (.sessionFinished session) = state :=
  reduce_of_not_accepts (by simpa [accepts_finished] using inactive)

theorem apply_snapshot (job : String) (snapshot : Snapshot) :
    state.apply (.snapshotReceived session job snapshot) =
      { state with
        selected := some { job, content := snapshot.content, status := snapshot.status }
        isLoadingLog := false
        error := none } := by
  unfold apply
  cases state.selected with
  | none => rfl
  | some log =>
    dsimp only
    split
    · rename_i same
      rw [SelectedLog.replace, same]
    · rfl

end ViewState

/-! ## The answer to a single load -/

def loadedLog (job : String) : Except Fault Snapshot → Option SelectedLog
  | .ok snapshot => some { job, content := snapshot.content, status := snapshot.status }
  | .error fault =>
    if fault.isNotFound then some { job, content := "", status := .unspecified } else none

theorem job_of_loadedLog {job : String} {result : Except Fault Snapshot} {log : SelectedLog}
    (shown : loadedLog job result = some log) : log.job = job := by
  unfold loadedLog at shown
  split at shown
  · exact Option.some.inj shown ▸ rfl
  · split at shown
    · exact Option.some.inj shown ▸ rfl
    · simp at shown

def loadedError (job : String) : Except Fault Snapshot → Option String
  | .ok _ => none
  | .error fault =>
    some (if fault.isNotFound then "build log not found: " ++ job else "failed to load build log")

theorem loadedError_of_none {job : String} {result : Except Fault Snapshot}
    (missing : loadedLog job result = none) :
    loadedError job result = some "failed to load build log" := by
  cases result with
  | ok snapshot => cases missing
  | error fault =>
    cases unknown : fault.isNotFound with
    | true => simp [loadedLog, unknown] at missing
    | false => simp [loadedError, unknown]

def ViewState.afterLoad (state : ViewState) (job : String) (result : Except Fault Snapshot) :
    ViewState :=
  { state.endSession with selected := loadedLog job result, error := loadedError job result }

end BuildWatch
