import BuildWatch.Records

namespace BuildWatch

structure SelectedLog where
  job : String
  content : String
  status : Status
  deriving DecidableEq, Repr

namespace SelectedLog

def append (log : SelectedLog) (text : String) (status : Status) : SelectedLog :=
  { log with content := log.content ++ text, status }

def replace (log : SelectedLog) (content : String) (status : Status) : SelectedLog :=
  { log with content, status }

end SelectedLog

end BuildWatch
