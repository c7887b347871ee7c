import BuildWatch.View.State

namespace BuildWatch

structure ViewStore where
  state : ViewState := {}
  version : Nat := 0
  deriving DecidableEq, Repr

namespace ViewStore

/-- Changes the state. The change itself says whether the new state is to be published, and so does
the answer. -/
def modify (store : ViewStore) (change : ViewState → ViewState × Bool) : ViewStore × Bool :=
  let (state, isPublished) := change store.state
  ({ state, version := if isPublished then store.version + 1 else store.version }, isPublished)

def send (store : ViewStore) (event : ViewEvent) : ViewStore × Bool :=
  store.modify fun state =>
    if state.accepts event then (state.reduce event, true) else (state, false)

def dispatch (store : ViewStore) (event : ViewEvent) : ViewStore :=
  (store.send event).1

def isActive (store : ViewStore) (session : SessionId) : Bool :=
  store.state.active == some session

def hasChangedSince (store : ViewStore) (seen : Nat) : Bool :=
  seen != store.version

variable (store : ViewStore) {event : ViewEvent}

theorem send_of_accepts (accepted : store.state.accepts event) : store.send event =
    ({ state := store.state.reduce event, version := store.version + 1 }, true) := by
  simp [send, modify, accepted]

theorem send_of_not_accepts (refused : store.state.accepts event = false) :
    store.send event = (store, false) := by
  simp [send, modify, refused]

theorem dispatch_state (event : ViewEvent) :
    (store.dispatch event).state = store.state.reduce event := by
  cases accepted : store.state.accepts event with
  | true => rw [dispatch, send_of_accepts store accepted]
  | false =>
    rw [dispatch, send_of_not_accepts store accepted, ViewState.reduce_of_not_accepts accepted]

theorem dispatch_version (event : ViewEvent) :
    (store.dispatch event).version =
      if store.state.accepts event then store.version + 1 else store.version := by
  cases accepted : store.state.accepts event with
  | true => simp [dispatch, send_of_accepts store accepted]
  | false => simp [dispatch, send_of_not_accepts store accepted]

end ViewStore

end BuildWatch
