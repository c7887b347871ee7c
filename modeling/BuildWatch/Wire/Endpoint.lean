namespace BuildWatch.Wire

def challengePath (id : String) : String :=
  "/api/v1/admin/challenges/" ++ id

def listPath (challenge : String) : String :=
  "/api/v1/admin/challenges/" ++ challenge ++ "/build-logs"

def logPath (job : String) : String :=
  "/api/v1/admin/build-logs/" ++ job

def streamPath (job : String) : String :=
  "/api/v1/admin/build-logs/" ++ job ++ "/stream"

end BuildWatch.Wire
