import BuildWatch.Instant.Basic
import BuildWatch.Status

namespace BuildWatch

structure Summary where
  job : String
  challenge : String
  status : Status
  created : Option Instant
  completed : Option Instant
  deriving DecidableEq, Repr

structure Challenge where
  id : String
  name : String
  genre : String
  points : Int64
  requiresInstance : Bool
  deriving DecidableEq, Repr

structure Snapshot where
  content : String
  status : Status
  deriving DecidableEq, Repr

structure Chunk where
  line : String
  status : Status
  isComplete : Bool
  deriving DecidableEq, Repr

def statusOf? (summaries : List Summary) (job : String) : Option Status :=
  (summaries.find? fun summary => summary.job == job).map Summary.status

end BuildWatch
