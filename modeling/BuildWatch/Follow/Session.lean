import BuildWatch.Fault
import BuildWatch.Follow.Config
import BuildWatch.View.State

namespace BuildWatch

abbrev StreamId : Type := Nat

inductive Outcome where
  | completed
  | ended
  | failed
  | cancelled
  | superseded
  deriving DecidableEq, Repr

/-- Where the program of a session stands. -/
inductive Stage where
  | ready
  | opening
  | receiving (stream : StreamId)
  | fetching (tick : Nat)
  | resting (tick : Nat)
  /-- The list has been asked for. After it the session rests until the poll given, if any, and is
  over otherwise. -/
  | listing (next : Option Nat)
  /-- A single load has asked for the log. -/
  | loading
  | over (outcome : Outcome)
  deriving DecidableEq, Repr

structure Session where
  job : String
  challenge : Option String
  viewport : Option Nat
  /-- How the job is followed; a single load has no plan. -/
  plan : Option Plan
  stage : Stage
  isCancelled : Bool := false
  /-- What happens right after a single load. -/
  sequel : List ViewEvent := []
  deriving DecidableEq, Repr

namespace Session

def isOver (session : Session) : Bool :=
  match session.stage with
  | .over _ => true
  | _ => false

def outcome? (session : Session) : Option Outcome :=
  match session.stage with
  | .over outcome => some outcome
  | _ => none

def stream? (session : Session) : Option StreamId :=
  match session.stage with
  | .receiving stream => some stream
  | _ => none

def pollPlan (session : Session) : Nat × Bool :=
  match session.plan with
  | some (.pollLoop interval refreshesList) => (interval, refreshesList)
  | _ => (0, false)

end Session

abbrev StreamItem : Type := Option (Except Fault Chunk)

inductive Opened where
  | closed
  | streaming
  | polling
  | snapshot
  deriving DecidableEq, Repr

end BuildWatch
