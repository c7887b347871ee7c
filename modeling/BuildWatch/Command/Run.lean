import BuildWatch.Client.Link
import BuildWatch.Command.Inspect
import BuildWatch.Command.Watch

/-!
# Running the command

The command over a link to the platform. What a watching command waits for is a `Want`; over a link
the next item of a stream and the end of a rest are always there, so nothing has to be waited for
and `run` is a function of the link.
-/

namespace BuildWatch.Command

open Client

/-! ## Wants -/

inductive Want where
  | turn (action : Action)
  | snapshot (session : SessionId) (job : String)
  | stream (session : SessionId) (job : String)
  | item (session : SessionId)
  | rest (session : SessionId) (nanos : Nat)
  deriving Repr

def Watch.want? (watch : Watch) : Option Want := do
  let slot ← watch.viewer.current
  let session ← watch.viewer.session? slot.session
  match session.stage with
  | .ready => some (.turn (.start slot.session))
  | .opening => some (.stream slot.session session.job)
  | .receiving _ => some (.item slot.session)
  | .fetching _ | .loading => some (.snapshot slot.session session.job)
  | .resting _ => some (.rest slot.session session.pollPlan.1)
  | .listing _ | .over _ => none

/-! ## Requests -/

def callRequest? (settings : Settings) : Call → Option Request
  | .snapshot job => request? settings (Wire.logPath job)
  | .stream job => (streamRequest settings job).toOption
  | .list challenge => request? settings (Wire.listPath challenge)
  | .challenge id => request? settings (Wire.challengePath id)

def requests (settings : Settings) (calls : List Call) : List Request :=
  calls.filterMap (callRequest? settings)

def answer {α : Type} (link : Link) (settings : Settings) (calls : List Call) (query : Query α) :
    Except Fault α :=
  (ask link settings (requests settings calls) query).mapError RequestError.fault

def answersAfter (link : Link) (settings : Settings) (calls : List Call) : Answers where
  list challenge := answer link settings calls (listQuery challenge)
  challenge id := answer link settings calls (challengeQuery id)

def entryAnswers (link : Link) (settings : Settings) (challenge : String) : Answers where
  list id := answer link settings [.challenge challenge] (listQuery id)
  challenge id := answer link settings [] (challengeQuery id)

/-! ## Watching over a link -/

/-- A watching command and the items of its stream that are still to come. -/
structure Conversation where
  watch : Watch
  items : List (Except StreamError Chunk) := []

namespace Conversation

def act (conversation : Conversation) (link : Link) (settings : Settings) (action : Action) :
    Conversation :=
  let watch := conversation.watch
  { conversation with
    watch := watch.act (answersAfter link settings watch.viewer.calls) action }

def step (conversation : Conversation) (link : Link) (settings : Settings) : Conversation :=
  let earlier := conversation.watch.viewer.calls.dropLast
  match conversation.watch.want? with
  | none => conversation
  | some (.turn action) => conversation.act link settings action
  | some (.snapshot id job) =>
    conversation.act link settings (.answer id (answer link settings earlier (snapshotQuery job)))
  | some (.stream id job) =>
    match openStream link settings (requests settings earlier) job with
    | .ok items => { conversation with items }.act link settings (.openStream id (.ok 0))
    | .error problem => conversation.act link settings (.openStream id (.error problem.fault))
  | some (.item id) =>
    let item := conversation.items.head?.map fun item => item.mapError StreamError.fault
    { conversation with items := conversation.items.tail }.act link settings (.receive id item)
  | some (.rest id _) => conversation.act link settings (.wake id)

def follow (conversation : Conversation) (link : Link) (settings : Settings) : Nat → Conversation
  | 0 => conversation
  | turns + 1 =>
    if conversation.watch.isDone then conversation
    else (conversation.step link settings).follow link settings turns

end Conversation

def startWatch (link : Link) (settings : Settings) (colored : Bool) (options : WatchOptions) :
    Conversation :=
  { watch := .start colored options (entryAnswers link settings options.challenge) }

/-! ## Commands -/

def isColored (isTerminal : Bool) (lookup : String → Option String) : Bool :=
  if (lookup "CLICOLOR_FORCE").any (· ≠ "0") then true
  else if (lookup "NO_COLOR").isSome then false
  else isTerminal && (lookup "CLICOLOR").all (· ≠ "0")

def Invocation.withSettings (invocation : Invocation) (command : Settings → Output) : Output :=
  match invocation.settings with
  | .error problem => .failure problem.message "" ""
  | .ok settings => command settings

/-- The output of an invocation. A watching command is left after so many turns at most. -/
def Invocation.run (link : Link) (colored : Bool) (turns : Nat) (invocation : Invocation) :
    Output :=
  match invocation.order with
  | .watch challenge job config => invocation.withSettings fun settings =>
    let start := startWatch link settings colored { challenge, job, config }
    (start.follow link settings turns).watch.output
  | .list challenge asJson => invocation.withSettings fun settings =>
    Command.list colored asJson (answer link settings [] (listQuery challenge))
  | .show job => invocation.withSettings fun settings =>
    Command.show colored job (answer link settings [] (snapshotQuery job))
  | .version => { out := versionText }

/-- The output of the command for some arguments and variables, where it is not shown on a
terminal. -/
def run (link : Link) (turns : Nat) (arguments : List String) (lookup : String → Option String) :
    Output :=
  match Invocation.read arguments lookup with
  | .error stop => stop.output
  | .ok invocation => invocation.run link (isColored false lookup) turns

end BuildWatch.Command
