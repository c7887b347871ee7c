import BuildWatch.Text.Letters

namespace BuildWatch.Client

structure Settings where
  baseUrl : String
  streamUrl : String
  token : Option String := none
  timeoutMillis : Nat := 30000
  deriving DecidableEq, Repr

inductive SettingsError where
  | missingVariable (name : String)
  | badScheme (url : String)
  deriving DecidableEq, Repr

def SettingsError.message : SettingsError → String
  | missingVariable name => "Configuration error: " ++ name ++ " not set"
  | badScheme url =>
    "Configuration error: base URL must start with http:// or https://: " ++ url

namespace Settings

def withoutSlashes (url : String) : String :=
  String.ofList (Text.dropFinal '/' url.toList)

def streamUrlOf? (baseUrl : String) : Option String :=
  match Text.afterPrefix? "https://".toList baseUrl.toList with
  | some rest => some ("wss://" ++ String.ofList rest)
  | none =>
    (Text.afterPrefix? "http://".toList baseUrl.toList).map fun rest =>
      "ws://" ++ String.ofList rest

def ofUrl (url : String) : Except SettingsError Settings :=
  let baseUrl := withoutSlashes url
  match streamUrlOf? baseUrl with
  | some streamUrl => .ok { baseUrl, streamUrl }
  | none => .error (.badScheme baseUrl)

def withStreamUrl (settings : Settings) (url : String) : Settings :=
  { settings with streamUrl := withoutSlashes url }

def withToken (settings : Settings) (token : String) : Settings :=
  { settings with token := some token }

def withTimeout (settings : Settings) (millis : Nat) : Settings :=
  { settings with timeoutMillis := millis }

def usableToken (token : Option String) : Option String :=
  token.filter (· ≠ "")

def assemble (baseUrl : String) (streamUrl token : Option String) :
    Except SettingsError Settings := do
  let settings ← ofUrl baseUrl
  let settings := (streamUrl.map settings.withStreamUrl).getD settings
  .ok ((token.map settings.withToken).getD settings)

def ofEnvironment (lookup : String → Option String) : Except SettingsError Settings :=
  match lookup "CTF_API_URL" with
  | none => .error (.missingVariable "CTF_API_URL")
  | some url => assemble url (lookup "CTF_WS_URL") (usableToken (lookup "CTF_AUTH_TOKEN"))

end Settings

end BuildWatch.Client
