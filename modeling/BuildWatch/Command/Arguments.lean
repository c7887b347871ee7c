import BuildWatch.Follow.Config
import BuildWatch.Text.Letters

namespace BuildWatch.Command

inductive Key where
  | apiUrl
  | streamUrl
  | token
  | timeout
  | json
  | job
  | poll
  | interval
  | help
  | version
  deriving DecidableEq, Repr

structure OptionSpec where
  key : Key
  long : String
  short : Option Char := none
  takesValue : Bool := true
  isNumber : Bool := false
  variableName : Option String := none
  deriving DecidableEq, Repr

def sharedOptions : List OptionSpec := [
  { key := .apiUrl, long := "api-url", short := some 'a', variableName := some "CTF_API_URL" },
  { key := .streamUrl, long := "ws-url", variableName := some "CTF_WS_URL" },
  { key := .token, long := "token", short := some 't', variableName := some "CTF_AUTH_TOKEN" },
  { key := .timeout, long := "timeout", isNumber := true },
  { key := .help, long := "help", short := some 'h', takesValue := false },
  { key := .version, long := "version", short := some 'V', takesValue := false }]

inductive Verb where
  | watch
  | list
  | show
  | version
  deriving DecidableEq, Repr

namespace Verb

def ofName? : String → Option Verb
  | "watch" | "w" => some .watch
  | "list" | "ls" => some .list
  | "show" => some .show
  | "version" => some .version
  | _ => none

def name : Verb → String
  | watch => "watch"
  | list => "list"
  | «show» => "show"
  | version => "version"

def ownOptions : Verb → List OptionSpec
  | watch => [
    { key := .job, long := "job", short := some 'j' },
    { key := .poll, long := "poll", takesValue := false },
    { key := .interval, long := "poll-interval-ms", isNumber := true
      variableName := some "CTF_POLL_INTERVAL_MS" }]
  | list => [{ key := .json, long := "json", takesValue := false }]
  | «show» | version => []

def operands : Verb → Nat
  | version => 0
  | _ => 1

end Verb

inductive Stop where
  | usage
  | help
  | version (verb : Option Verb)
  deriving DecidableEq, Repr

/-! ## Numbers -/

def number? (text : String) : Option Nat :=
  let digits := (Text.afterPrefix? ['+'] text.toList).getD text.toList
  let n := Nat.ofDigitChars 10 digits 0
  if digits.isEmpty || !digits.all Char.isDigit || UInt64.size ≤ n then none else some n

/-! ## One level of arguments -/

/-- What has been read at one level: before the name of the command, or after it. -/
structure Reading where
  verb : Option Verb
  given : List (Key × String) := []
  operands : List String := []
  pending : Option (OptionSpec × String) := none

namespace Reading

def options (reading : Reading) : List OptionSpec :=
  sharedOptions ++ (reading.verb.map Verb.ownOptions).getD []

def put (reading : Reading) (option : OptionSpec) (value : String) : Except Stop Reading :=
  if reading.given.any (fun entry => entry.1 == option.key) then .error .usage
  else if option.isNumber && (number? value).isNone then .error .usage
  else .ok { reading with given := reading.given ++ [(option.key, value)] }

def settle (reading : Reading) : Except Stop Reading :=
  match reading.pending with
  | none => .ok reading
  | some (option, value) => { reading with pending := none }.put option value

def switch (reading : Reading) (option : OptionSpec) : Except Stop Reading := do
  let reading ← reading.settle
  match option.key with
  | .help => .error .help
  | .version => .error (.version reading.verb)
  | _ => reading.put option ""

def option (reading : Reading) (option : OptionSpec) (attached : Option String)
    (rest : List String) : Except Stop (Reading × List String) := do
  let reading ← reading.settle
  match attached, rest with
  | some value, _ => return (← reading.put option value, rest)
  | none, [] => .error .usage
  | none, value :: rest =>
    match value.toList with
    | '-' :: _ :: _ => .error .usage
    | _ => return ({ reading with pending := some (option, value) }, rest)

def operand (reading : Reading) (value : String) : Except Stop Reading := do
  let reading ← reading.settle
  match reading.verb with
  | none => .error .usage
  | some verb =>
    if reading.operands.length < verb.operands then
      return { reading with operands := reading.operands ++ [value] }
    else .error .usage

end Reading

inductive Shape where
  | separator
  | long (name : String) (value : Option String)
  | short (letter : Char) (value : Option String)
  | plain
  deriving DecidableEq, Repr

def shape (argument : String) : Shape :=
  match argument.toList with
  | ['-', '-'] => .separator
  | '-' :: '-' :: rest =>
    let (name, value) := Text.cutAt '=' rest
    .long (String.ofList name) (value.map String.ofList)
  | '-' :: letter :: rest =>
    let value : Option String :=
      match rest with
      | [] => none
      | '=' :: value => some (String.ofList value)
      | value => some (String.ofList value)
    .short letter value
  | _ => .plain

def readArgument (reading : Reading) (argument : String) (rest : List String) :
    Except Stop (Reading × List String) :=
  match shape argument with
  | .long name value =>
    match reading.options.find? fun option => option.long == name with
    | none => .error .usage
    | some option =>
      if option.takesValue then reading.option option value rest
      else if value.isSome then .error .usage
      else (reading.switch option).map fun reading => (reading, rest)
  | .short letter value =>
    match reading.options.find? fun option => option.short == some letter with
    | none => .error .usage
    | some option =>
      if option.takesValue then reading.option option value rest
      else (reading.switch option).map fun reading => (reading, rest)
  | _ => (reading.operand argument).map fun reading => (reading, rest)

def readOwn : Nat → Reading → List String → Except Stop Reading
  | 0, _, _ => .error .usage
  | _, reading, [] => reading.settle
  | fuel + 1, reading, argument :: rest =>
    if shape argument = .separator then do
      (← rest.foldlM Reading.operand reading).settle
    else do
      let (reading, rest) ← readArgument reading argument rest
      readOwn fuel reading rest

def helpStop : List String → Stop
  | [] => .help
  | ["help"] => .help
  | name :: rest => if (Verb.ofName? name).isSome && rest.isEmpty then .help else .usage

def readAll : Nat → Reading → List String → Except Stop (Reading × Reading)
  | 0, _, _ => .error .usage
  | _, _, [] => .error .usage
  | fuel + 1, reading, argument :: rest =>
    match Verb.ofName? argument with
    | some verb => do
      let own ← readOwn (rest.length + 1) { verb := some verb } rest
      return (← reading.settle, own)
    | none =>
      if argument = "help" then .error (helpStop rest)
      else if shape argument = .separator then .error .usage
      else do
        let (reading, rest) ← readArgument reading argument rest
        readAll fuel reading rest

/-! ## Invocations -/

inductive Order where
  | watch (challenge : String) (job : Option String) (config : ViewerConfig)
  | list (challenge : String) (asJson : Bool)
  | show (job : String)
  | version
  deriving DecidableEq, Repr

structure Invocation where
  apiUrl : String
  streamUrl : Option String
  token : Option String
  timeoutSeconds : Nat
  order : Order
  deriving DecidableEq, Repr

namespace Invocation

def value? (shared own : Reading) (lookup : String → Option String) (option : OptionSpec) :
    Option String :=
  let given (reading : Reading) : Option String :=
    (reading.given.find? fun entry => entry.1 == option.key).map Prod.snd
  given own <|> given shared <|> option.variableName.bind lookup

def numberOr (fallback : Nat) : Option String → Except Stop Nat
  | none => .ok fallback
  | some text =>
    match number? text with
    | some n => .ok n
    | none => .error .usage

def viewerConfig (polls : Bool) (millis : Nat) : ViewerConfig :=
  let interval := millis * nanosPerMilli
  if polls then .polling interval else { interval }

def assemble (verb : Verb) (shared own : Reading) (lookup : String → Option String) :
    Except Stop Invocation := do
  let value (key : Key) : Option String :=
    ((own.options.find? fun option => option.key == key).bind (value? shared own lookup))
  let operand := own.operands.head?.getD ""
  if own.operands.length < verb.operands then .error .usage
  let timeoutSeconds ← numberOr 30 (value .timeout)
  let interval ← numberOr 2000 (value .interval)
  let order : Order :=
    match verb with
    | .watch => .watch operand (value .job) (viewerConfig (value .poll).isSome interval)
    | .list => .list operand (value .json).isSome
    | .show => .show operand
    | .version => .version
  return {
    apiUrl := (value .apiUrl).getD "http://localhost:8080"
    streamUrl := value .streamUrl
    token := value .token
    timeoutSeconds
    order }

def read (arguments : List String) (lookup : String → Option String) : Except Stop Invocation := do
  let (shared, own) ← readAll (arguments.length + 1) { verb := none } arguments
  match own.verb with
  | some verb => assemble verb shared own lookup
  | none => .error .usage

end Invocation

end BuildWatch.Command
