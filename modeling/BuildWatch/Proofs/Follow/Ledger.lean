import BuildWatch.Proofs.Follow.Runs

namespace BuildWatch

/-- What the steps of a run add up to, `adds` being what each of them adds. -/
def gathered {σ ε α : Type} (next : σ → ε → σ) (adds : σ → ε → List α) : σ → List ε → List α
  | _, [] => []
  | state, step :: rest => adds state step ++ gathered next adds (next state step) rest

theorem gathered_concat {σ ε α : Type} {next : σ → ε → σ} {adds : σ → ε → List α} {state : σ}
    {steps : List ε} {step : ε} : gathered next adds state (steps ++ [step]) =
      gathered next adds state steps ++ adds (steps.foldl next state) step := by
  induction steps generalizing state with
  | nil => simp [gathered]
  | cons first rest ih => simp [gathered, ih]

namespace Viewer

variable {viewer : Viewer} {id : SessionId} {session : Session} {answers : Answers}

theorem setStage_sessions_congr {after : Viewer} (stage : Stage)
    (same : after.sessions = viewer.sessions) :
    (after.setStage id stage).sessions = (viewer.setStage id stage).sessions := by
  simp [setStage, modify, same]

/-! ## Endings and refreshes -/

@[simp] theorem conclude_calls (outcome : Outcome) :
    (viewer.conclude id outcome).calls = viewer.calls := by
  unfold conclude
  dsimp only
  split <;> rfl

@[simp] theorem conclude_scrolls (outcome : Outcome) :
    (viewer.conclude id outcome).scrolls = viewer.scrolls := by
  unfold conclude
  dsimp only
  split <;> rfl

@[simp] theorem goOn_calls (next : Option Nat) : (viewer.goOn id next).calls = viewer.calls := by
  cases next with
  | none => exact conclude_calls .completed
  | some tick => rfl

@[simp] theorem goOn_scrolls (next : Option Nat) :
    (viewer.goOn id next).scrolls = viewer.scrolls := by
  cases next with
  | none => exact conclude_scrolls .completed
  | some tick => rfl

def stageAfter : Option Nat → Stage
  | none => .over .completed
  | some tick => .resting tick

theorem goOn_sessions (next : Option Nat) :
    (viewer.goOn id next).sessions = (viewer.setStage id (stageAfter next)).sessions := by
  cases next with
  | none => exact conclude_sessions viewer id .completed
  | some tick => rfl

@[simp] theorem listAnswered_calls (result : Except Fault (List Summary)) :
    (viewer.listAnswered result).1.calls = viewer.calls := by
  cases result <;> rfl

@[simp] theorem listAnswered_scrolls (result : Except Fault (List Summary)) :
    (viewer.listAnswered result).1.scrolls = viewer.scrolls := by
  cases result <;> rfl

@[simp] theorem loadList_calls (challenge : String) :
    (viewer.loadList answers challenge).1.calls = viewer.calls ++ [.list challenge] :=
  listAnswered_calls (answers.list challenge)

@[simp] theorem loadList_scrolls (challenge : String) :
    (viewer.loadList answers challenge).1.scrolls = viewer.scrolls :=
  listAnswered_scrolls (answers.list challenge)

def listCalls (challenge : Option String) : List Call :=
  challenge.toList.map .list

section
variable (uncancelled : session.isCancelled = false) (next : Option Nat)
include uncancelled

theorem refreshFor_calls : (viewer.refreshFor answers id session next).calls =
    viewer.calls ++ listCalls session.challenge := by
  unfold refreshFor
  split
  · rename_i unknown
    simp [unknown, listCalls]
  · rename_i challenge known
    simp only [uncancelled, Bool.false_eq_true, if_false]
    split <;> simp [known, listCalls, askList, setStage, modify, call, dispatch]

theorem refreshFor_sessions (viewer : Viewer) (id : SessionId) (answers : Answers) :
    ∃ stage, (viewer.refreshFor answers id session next).sessions =
      (viewer.setStage id stage).sessions ∧
    (stage = stageAfter next ∨
      stage = .listing next ∧ answers.delaysList ∧ session.challenge.isSome) := by
  unfold refreshFor
  split
  · exact ⟨_, goOn_sessions next, .inl rfl⟩
  · rename_i challenge known
    simp only [uncancelled, Bool.false_eq_true, if_false]
    split
    · rename_i delayed
      exact ⟨.listing next, rfl, .inr ⟨rfl, delayed, by simp [known]⟩⟩
    · refine ⟨_, ?_, .inl rfl⟩
      rw [goOn_sessions]
      exact setStage_sessions_congr _ (Alike.loadList answers challenge).sessions

end

theorem refreshFor_scrolls (next : Option Nat) :
    (viewer.refreshFor answers id session next).scrolls = viewer.scrolls := by
  unfold refreshFor
  split
  · exact goOn_scrolls next
  · split
    · exact goOn_scrolls next
    · split
      · rfl
      · simp

theorem scroll_scrolls (viewer : Viewer) (session : Session) : (viewer.scroll session).scrolls =
    viewer.scrolls ++ session.viewport.toList.map fun viewport =>
      { viewport, shown := viewer.state.selected } := by
  unfold scroll
  split <;> simp [*]

@[simp] theorem scroll_calls (viewer : Viewer) (session : Session) :
    (viewer.scroll session).calls = viewer.calls := by
  unfold scroll
  split <;> rfl

/-! ## Single loads -/

section
variable {result : Except Fault Snapshot}

theorem showLoaded_keeps {α : Type} (record : Viewer → α)
    (kept : ∀ viewer event, record (viewer.dispatch event) = record viewer) :
    record (viewer.showLoaded id session result).1 = record viewer := by
  have published (event : ViewEvent) :
      record (((viewer.publish? session event).getD viewer).dispatch (.sessionFinished id)) =
        record viewer := by
    rw [kept]
    unfold publish?
    split
    · exact kept viewer event
    · rfl
  unfold showLoaded
  cases result with
  | ok snapshot => exact published _
  | error fault =>
    dsimp only
    split
    · rfl
    · split <;> exact published _

theorem loaded_calls : (viewer.loaded id session result).calls = viewer.calls := by
  have released (viewer : Viewer) : (viewer.release id).calls = viewer.calls := by
    unfold release
    split <;> rfl
  rw [loaded_eq, dispatchAll_calls, released]
  exact showLoaded_keeps calls fun _ _ => rfl

theorem loaded_scrolls : (viewer.loaded id session result).scrolls = viewer.scrolls := by
  have released (viewer : Viewer) : (viewer.release id).scrolls = viewer.scrolls := by
    unfold release
    split <;> rfl
  rw [loaded_eq, dispatchAll_scrolls, released]
  exact showLoaded_keeps scrolls fun _ _ => rfl

end

/-! ## What one session adds -/

/-- What the turns of a session have added to a record in the course of a run. -/
def ownRecord {α : Type} (record : Viewer → List α) (id : SessionId) :
    Viewer → List (Answers × Action) → List α :=
  gathered (fun viewer step => viewer.act step.1 step.2) fun viewer step =>
    if step.2.session? = some id then
      (record (viewer.act step.1 step.2)).drop (record viewer).length
    else []

section
variable {α : Type} {record : Viewer → List α} {steps : List (Answers × Action)}
  {step : Answers × Action}

theorem ownRecord_concat_of_other (other : step.2.session? ≠ some id) :
    ownRecord record id viewer (steps ++ [step]) = ownRecord record id viewer steps := by
  simp [ownRecord, gathered_concat, other]

theorem ownRecord_concat {added : List α} (own : step.2.session? = some id)
    (grows : record ((viewer.run steps).act step.1 step.2) = record (viewer.run steps) ++ added) :
    ownRecord record id viewer (steps ++ [step]) = ownRecord record id viewer steps ++ added := by
  rw [ownRecord, gathered_concat, if_pos own]
  change _ ++ (record ((viewer.run steps).act step.1 step.2)).drop _ = _
  rw [grows]
  exact congrArg _ List.drop_left

end

end Viewer

end BuildWatch
