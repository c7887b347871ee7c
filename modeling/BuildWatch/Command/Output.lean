import BuildWatch.Client.Settings
import BuildWatch.Command.Arguments

namespace BuildWatch.Command

/-- The two outputs of the command and the code it ends with. The lines of its log, which go among
the errors as well, are left out. -/
structure Output where
  code : Nat := 0
  out : String := ""
  errors : String := ""
  deriving DecidableEq, Repr

namespace Output

def failure (message : String) (out : String) (errors : String) : Output :=
  { code := 1, out, errors := errors ++ "Error: " ++ message ++ "\n" }

def ofLine (line : String) : Output :=
  { out := line ++ "\n" }

end Output

/-! ## Texts that need no platform -/

def name : String := "ctf-logs"

def release : String := "0.1.0"

def versionText : String :=
  name ++ " v" ++ release ++ "\n  Build: ctf-log-viewer\n  Commit: unknown\n"

def usageText : String :=
  "Usage: " ++ name ++ " [OPTIONS] <COMMAND>\n\n" ++
  "Commands:\n" ++
  "  watch <CHALLENGE> [--job <JOB>] [--poll] [--poll-interval-ms <N>]\n" ++
  "  list <CHALLENGE> [--json]\n" ++
  "  show <JOB>\n" ++
  "  version\n\n" ++
  "Options: --api-url <URL> --ws-url <URL> --token <TOKEN> --timeout <SECONDS>\n"

def Stop.output : Stop → Output
  | usage => { code := 2 }
  | help => { out := usageText }
  | version none => .ofLine (name ++ " " ++ release)
  | version (some verb) => .ofLine (name ++ "-" ++ verb.name ++ " " ++ release)

def Invocation.settings (invocation : Invocation) :
    Except Client.SettingsError Client.Settings :=
  (Client.Settings.assemble invocation.apiUrl invocation.streamUrl
    (Client.Settings.usableToken invocation.token)).map fun settings =>
      settings.withTimeout (invocation.timeoutSeconds * 1000)

end BuildWatch.Command
