import BuildWatch.View.Log

/-!
# View state

Everything a screen shows is one value, which only changes by events. An event of a session counts
only while that session is the active one, so nothing that arrives late can touch the screen.

* `reduce_of_not_accepts`: a refused event changes nothing.
-/

namespace BuildWatch

/-- The number of a session. Sessions are counted from one. -/
abbrev SessionId : Type := Nat

structure ViewState where
  challenge : Option Challenge := none
  summaries : List Summary := []
  selected : Option SelectedLog := none
  isLoading : Bool := false
  isLoadingList : Bool := false
  isLoadingLog : Bool := false
  error : Option String := none
  isListExpanded : Bool := false
  isFollowing : Bool := false
  active : Option SessionId := none
  deriving DecidableEq, Repr

inductive ViewEvent where
  | challengeLoadStarted
  | challengeLoaded (challenge : Challenge)
  | challengeLoadFinished
  | listLoadStarted
  | listLoaded (summaries : List Summary)
  | listLoadFinished
  | listToggled
  | listExpanded
  | failed (message : String)
  /-- A session took over the screen. A live one shows an empty log at once, a single load shows
  that it is loading. -/
  | sessionOpened (session : SessionId) (job : String) (status : Status) (live : Bool)
  | chunkReceived (session : SessionId) (text : String) (status : Status)
  | snapshotReceived (session : SessionId) (job : String) (snapshot : Snapshot)
  /-- A single load failed. With `showEmpty` an empty log is shown instead of none. -/
  | snapshotFailed (session : SessionId) (job : String) (message : String) (showEmpty : Bool)
  | sessionFinished (session : SessionId)
  | sessionCancelled
  | logClosed
  deriving DecidableEq, Repr

def ViewEvent.session? : ViewEvent → Option SessionId
  | chunkReceived session _ _ | snapshotReceived session _ _ | snapshotFailed session _ _ _
  | sessionFinished session => some session
  | _ => none

namespace ViewState

/-- Events of a session are accepted from the active one only, and chunks only for a log on
screen. -/
def accepts (state : ViewState) (event : ViewEvent) : Bool :=
  (match event.session? with
    | some session => state.active == some session
    | none => true) &&
  match event with
  | .chunkReceived .. => state.selected.isSome
  | _ => true

def endSession (state : ViewState) : ViewState :=
  { state with active := none, isFollowing := false, isLoadingLog := false }

def apply (state : ViewState) : ViewEvent → ViewState
  | .challengeLoadStarted => { state with isLoading := true, error := none }
  | .challengeLoaded challenge => { state with challenge := some challenge, error := none }
  | .challengeLoadFinished => { state with isLoading := false }
  | .listLoadStarted => { state with isLoadingList := true }
  | .listLoaded summaries => { state with summaries, isLoadingList := false, error := none }
  | .listLoadFinished => { state with isLoadingList := false }
  | .listToggled => { state with isListExpanded := !state.isListExpanded }
  | .listExpanded => { state with isListExpanded := true }
  | .failed message => { state with error := some message }
  | .sessionOpened session job status live =>
    if live then
      { state with
        active := some session
        selected := some { job, content := "", status }
        isLoadingLog := false
        isFollowing := true }
    else
      { state with
        active := some session
        selected := none
        isLoadingLog := true
        isFollowing := false }
  | .chunkReceived _ text status =>
    { state with
      selected := state.selected.map fun log => log.append text status
      error := none }
  | .snapshotReceived _ job snapshot =>
    let log : SelectedLog :=
      match state.selected with
      | some log =>
        if log.job = job then log.replace snapshot.content snapshot.status
        else { job, content := snapshot.content, status := snapshot.status }
      | none => { job, content := snapshot.content, status := snapshot.status }
    { state with selected := some log, isLoadingLog := false, error := none }
  | .snapshotFailed _ job message showEmpty =>
    { state with
      selected := if showEmpty then some { job, content := "", status := .unspecified } else none
      isLoadingLog := false
      error := some message }
  | .sessionFinished _ => state.endSession
  | .sessionCancelled => state.endSession
  | .logClosed => { state.endSession with selected := none }

def reduce (state : ViewState) (event : ViewEvent) : ViewState :=
  if state.accepts event then state.apply event else state

def reduceAll (state : ViewState) (events : List ViewEvent) : ViewState :=
  events.foldl reduce state

theorem reduce_of_not_accepts {state : ViewState} {event : ViewEvent}
    (h : state.accepts event = false) : state.reduce event = state := by
  simp [reduce, h]

theorem reduce_of_accepts {state : ViewState} {event : ViewEvent}
    (h : state.accepts event = true) : state.reduce event = state.apply event := by
  simp [reduce, h]

theorem reduceAll_concat (state : ViewState) (events : List ViewEvent) (event : ViewEvent) :
    state.reduceAll (events ++ [event]) = (state.reduceAll events).reduce event :=
  List.foldl_append

end ViewState

end BuildWatch
