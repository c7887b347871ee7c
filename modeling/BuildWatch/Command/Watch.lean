import BuildWatch.Command.Output
import BuildWatch.Follow.Viewer
import BuildWatch.Terminal.Screen

namespace BuildWatch.Command

open Terminal

structure WatchOptions where
  challenge : String
  job : Option String := none
  config : ViewerConfig := {}
  deriving DecidableEq, Repr

inductive Phase where
  | entering
  | opening
  | following
  | done (code : Nat)
  deriving DecidableEq, Repr

structure Watch where
  options : WatchOptions
  viewer : Viewer
  screen : Screen
  errors : String := ""
  phase : Phase := .entering
  deriving DecidableEq, Repr

namespace Watch

/-! ## Writing -/

def writeError (watch : Watch) (line : String) : Watch :=
  { watch with errors := watch.errors ++ line ++ "\n" }

def render (watch : Watch) : Watch :=
  { watch with screen := watch.screen.render watch.viewer.state.selected }

def perform (watch : Watch) (answers : Answers) (action : Action) : Watch :=
  let viewer := watch.viewer.act answers action
  let scrolls := viewer.scrolls.drop watch.viewer.scrolls.length
  { watch with
    viewer
    screen := scrolls.foldl (fun screen scroll => screen.render scroll.shown) watch.screen }

/-! ## Phases -/

def session? (watch : Watch) : Option Session :=
  watch.viewer.current.bind fun slot => watch.viewer.session? slot.session

def isLoading (watch : Watch) : Bool :=
  watch.session?.any fun session => session.stage == .loading

def isFollowing (watch : Watch) : Bool :=
  watch.viewer.activeJob.isSome && watch.session?.any fun session => !session.isOver

def finish (watch : Watch) (answers : Answers) : Watch :=
  let watch := (watch.perform answers (.setViewport none)).render
  let colored := watch.screen.colored
  let state := watch.viewer.state
  let watch :=
    match state.selected with
    | none => watch
    | some log =>
      watch.writeError (painted colored .brightWhite "Job" ++ " " ++ log.job ++ " " ++
        statusLabel colored log.status)
  let watch :=
    match state.error with
    | none => watch
    | some message => watch.writeError (painted colored .red message)
  { watch with phase := .done 0 }

def afterFollowing (watch : Watch) (answers : Answers) : Watch :=
  if watch.isFollowing then watch else watch.finish answers

def afterOpening (watch : Watch) (answers : Answers) : Watch :=
  if watch.isLoading then watch
  else { watch.render with phase := .following }.afterFollowing answers

def openNewest (watch : Watch) (answers : Answers) : Watch :=
  match watch.options.job, watch.viewer.state.summaries with
  | some _, _ => { watch with phase := .opening }.afterOpening answers
  | none, [] =>
    let line := painted watch.screen.colored .yellow "No builds for this challenge yet."
    { watch with screen := watch.screen.writeLine line, phase := .done 0 }
  | none, newest :: _ =>
    let watch := watch.perform answers (.openJob newest.job (some newest.status))
    { watch with phase := .opening }.afterOpening answers

def afterEntering (watch : Watch) (answers : Answers) : Watch :=
  if watch.isLoading then watch
  else
    let state := watch.viewer.state
    match state.challenge with
    | none =>
      let watch := watch.writeError ("Error: " ++ state.error.getD "failed to load challenge")
      { watch with phase := .done 1 }
    | some challenge =>
      let colored := watch.screen.colored
      (watch.writeError (painted colored .brightWhite "Challenge:" ++ " " ++
        painted colored .cyan challenge.name ++ " (" ++ toString state.summaries.length ++
        " builds)")).openNewest answers

def proceed (watch : Watch) (answers : Answers) : Watch :=
  match watch.phase with
  | .entering => watch.afterEntering answers
  | .opening => watch.afterOpening answers
  | .following => watch.afterFollowing answers
  | .done _ => watch

/-! ## Runs -/

def start (colored : Bool) (options : WatchOptions) (answers : Answers) : Watch :=
  let viewer : Viewer := { config := options.config, viewport := some 0 }
  let watch : Watch := { options, viewer, screen := { colored } }
  (watch.perform answers (.enter (some options.challenge) options.job)).proceed answers

def act (watch : Watch) (answers : Answers) (action : Action) : Watch :=
  (watch.perform answers action).proceed answers

def output (watch : Watch) : Output where
  code :=
    match watch.phase with
    | .done code => code
    | _ => 0
  out := watch.screen.output
  errors := watch.errors

def isDone (watch : Watch) : Bool :=
  match watch.phase with
  | .done _ => true
  | _ => false

def run (watch : Watch) (turns : List (Answers × Action)) : Watch :=
  turns.foldl (fun watch turn => watch.act turn.1 turn.2) watch

end Watch

end BuildWatch.Command
