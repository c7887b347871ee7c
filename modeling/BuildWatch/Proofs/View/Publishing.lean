import BuildWatch.View.Store
import Mathlib.Data.List.Induction

namespace BuildWatch

/-- A store is told an event, or a watcher looks at it. -/
inductive StoreUse where
  | tell (event : ViewEvent)
  | look
  deriving DecidableEq, Repr

namespace StoreUse

def event? : StoreUse → Option ViewEvent
  | tell event => some event
  | look => none

def stateAfter (uses : List StoreUse) : ViewState :=
  ViewState.reduceAll {} (uses.filterMap event?)

@[simp] theorem stateAfter_tell (uses : List StoreUse) (event : ViewEvent) :
    stateAfter (uses ++ [tell event]) = (stateAfter uses).reduce event := by
  rw [stateAfter, List.filterMap_append]
  exact ViewState.reduceAll_concat ..

@[simp] theorem stateAfter_look (uses : List StoreUse) :
    stateAfter (uses ++ [look]) = stateAfter uses := by
  rw [stateAfter, List.filterMap_append]
  exact congrArg _ (List.append_nil _)

/-! ## News -/

/-- An event has been accepted at its time, and nobody has looked since. -/
def HasNews (uses : List StoreUse) : Prop :=
  ∃ earlier event later, uses = earlier ++ tell event :: later ∧ look ∉ later ∧
    (stateAfter earlier).accepts event

theorem not_hasNews_nil : ¬ HasNews [] := by
  rintro ⟨earlier, event, later, split, -⟩
  simp at split

theorem split_concat {uses earlier later : List StoreUse} {last : StoreUse} {event : ViewEvent}
    (split : uses ++ [last] = earlier ++ tell event :: later) :
    (later = [] ∧ uses = earlier ∧ last = tell event) ∨
      ∃ between, later = between ++ [last] ∧ uses = earlier ++ tell event :: between := by
  cases later using List.reverseRecOn with
  | nil => exact .inl ⟨rfl, List.append_singleton_inj.mp split⟩
  | append_singleton between use =>
    rw [← List.cons_append, ← List.append_assoc] at split
    obtain ⟨same, rfl⟩ := List.append_singleton_inj.mp split
    exact .inr ⟨between, rfl, same⟩

theorem not_hasNews_look (uses : List StoreUse) : ¬ HasNews (uses ++ [look]) := by
  rintro ⟨earlier, event, later, split, unseen, -⟩
  rcases split_concat split with ⟨-, -, last⟩ | ⟨between, rfl, -⟩
  · cases last
  · simp at unseen

theorem hasNews_tell {uses : List StoreUse} {event : ViewEvent} :
    HasNews (uses ++ [tell event]) ↔ HasNews uses ∨ (stateAfter uses).accepts event := by
  constructor
  · rintro ⟨earlier, told, later, split, unseen, accepts⟩
    rcases split_concat split with ⟨-, rfl, last⟩ | ⟨between, rfl, same⟩
    · cases last
      exact .inr accepts
    · have unseenBefore : look ∉ between := by simpa using unseen
      exact .inl ⟨earlier, told, between, same, unseenBefore, accepts⟩
  · rintro (⟨earlier, told, later, rfl, unseen, accepts⟩ | accepts)
    · exact ⟨earlier, told, later ++ [tell event], by simp, by simpa using unseen, accepts⟩
    · exact ⟨uses, event, [], rfl, by simp, accepts⟩

end StoreUse

/-! ## Watched stores -/

/-- A store, and the version of it that a watcher has seen. -/
structure WatchedStore where
  store : ViewStore := {}
  seen : Nat := 0

namespace WatchedStore

def use (watched : WatchedStore) : StoreUse → WatchedStore
  | .tell event => { watched with store := watched.store.dispatch event }
  | .look => { watched with seen := watched.store.version }

def run (watched : WatchedStore) (uses : List StoreUse) : WatchedStore :=
  uses.foldl use watched

def hasChanged (watched : WatchedStore) : Bool :=
  watched.store.hasChangedSince watched.seen

theorem run_concat (watched : WatchedStore) (uses : List StoreUse) (last : StoreUse) :
    watched.run (uses ++ [last]) = (watched.run uses).use last :=
  List.foldl_append

theorem hasChanged_iff_lt {watched : WatchedStore} (bound : watched.seen ≤ watched.store.version) :
    watched.hasChanged ↔ watched.seen < watched.store.version := by
  simp [hasChanged, ViewStore.hasChangedSince, Nat.lt_iff_le_and_ne, bound]

theorem state_run (uses : List StoreUse) :
    (run {} uses).store.state = StoreUse.stateAfter uses := by
  induction uses using List.reverseRecOn with
  | nil => rfl
  | append_singleton uses last ih =>
    rw [run_concat]
    cases last with
    | tell event =>
      rw [StoreUse.stateAfter_tell, ← ih]
      exact ViewStore.dispatch_state _ event
    | look =>
      rw [StoreUse.stateAfter_look, ← ih]
      rfl

theorem seen_run_le (uses : List StoreUse) :
    (run {} uses).seen ≤ (run {} uses).store.version := by
  induction uses using List.reverseRecOn with
  | nil => exact Nat.le_refl 0
  | append_singleton uses last ih =>
    rw [run_concat]
    cases last with
    | tell event =>
      refine Nat.le_trans ih ?_
      simp only [use, ViewStore.dispatch_version]
      split <;> omega
    | look => exact Nat.le_refl _

theorem hasChanged_run_iff (uses : List StoreUse) :
    (run {} uses).hasChanged ↔ StoreUse.HasNews uses := by
  induction uses using List.reverseRecOn with
  | nil => exact iff_of_false (by decide) StoreUse.not_hasNews_nil
  | append_singleton uses last ih =>
    cases last with
    | tell event =>
      have bound := seen_run_le uses
      have further := seen_run_le (uses ++ [.tell event])
      rw [hasChanged_iff_lt bound] at ih
      rw [StoreUse.hasNews_tell, ← ih, ← state_run, hasChanged_iff_lt further, run_concat]
      simp only [use, ViewStore.dispatch_version]
      split
      · rename_i accepted
        -- The watcher has seen no version beyond the last one, so this one is new.
        exact iff_of_true (Nat.lt_succ_of_le bound) (.inr accepted)
      · rename_i refused
        exact (or_iff_left refused).symm
    | look =>
      refine iff_of_false ?_ (StoreUse.not_hasNews_look uses)
      rw [run_concat]
      simp [use, hasChanged, ViewStore.hasChangedSince]

/-- However a store that starts out empty is used, it shows the state that the events told lead to,
it answers whether that state accepts an event, and a refused event leaves it alone. A watcher finds
it changed exactly if an event has been accepted since the last look. -/
theorem store_publishes_faithfully (uses : List StoreUse) :
    let watched := run {} uses
    let state := ViewState.reduceAll {} (uses.filterMap StoreUse.event?)
    watched.store.state = state ∧
      (∀ event, (watched.store.send event).2 = state.accepts event ∧
        (watched.store.send event).1.state = state.reduce event ∧
        (state.accepts event = false → (watched.store.send event).1 = watched.store)) ∧
      (watched.hasChanged ↔ StoreUse.HasNews uses) ∧
      ∀ session, watched.store.isActive session ↔ state.active = some session := by
  intro watched state
  have shown : watched.store.state = state := state_run uses
  refine ⟨shown, ?_, hasChanged_run_iff uses, ?_⟩
  · intro event
    rw [← shown]
    cases accepted : watched.store.state.accepts event with
    | true => simp [ViewStore.send_of_accepts _ accepted]
    | false =>
      simp [ViewStore.send_of_not_accepts _ accepted, ViewState.reduce_of_not_accepts accepted]
  · intro session
    simp [ViewStore.isActive, shown]

theorem late_chunk_is_not_published :
    let ended : List StoreUse := [.tell (.sessionOpened 1 "job" .building true), .look,
      .tell (.sessionFinished 1)]
    let late : ViewEvent := .chunkReceived 1 "late" .building
    (run {} ended).hasChanged ∧
      ((run {} (ended ++ [.look])).store.send late).1 = (run {} (ended ++ [.look])).store ∧
      ¬ (run {} (ended ++ [.look, .tell late])).hasChanged := by
  intro ended late
  obtain ⟨-, -, news, -⟩ := store_publishes_faithfully ended
  obtain ⟨-, answers, -⟩ := store_publishes_faithfully (ended ++ [.look])
  have told : StoreUse.HasNews ended := ⟨ended.take 2, .sessionFinished 1, [], by decide⟩
  exact ⟨news.mpr told, (answers late).2.2 (by decide), by decide⟩

end WatchedStore

end BuildWatch
