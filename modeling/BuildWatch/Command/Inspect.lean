import BuildWatch.Command.Output
import BuildWatch.Follow.Viewer
import BuildWatch.Json.Indent
import BuildWatch.Terminal.Screen
import BuildWatch.Terminal.Table
import BuildWatch.Wire.Records

namespace BuildWatch.Command

open Terminal

def list (colored asJson : Bool) : Except Fault (List Summary) → Output
  | .error fault => .failure fault.message "" ""
  | .ok summaries =>
    if asJson then .ofLine (Wire.summary.list.encodeIndented summaries)
    else if summaries.isEmpty then
      .ofLine (painted colored .yellow "No builds for this challenge.")
    else .ofLine (String.intercalate "\n" (summaryTable summaries))

def noAnswers : Answers where
  list _ := .ok []
  challenge id := .error (.notFound id)

def shown (job : String) (result : Except Fault Snapshot) : Viewer :=
  Viewer.run {} [(noAnswers, .openJob job none), (noAnswers, .answer 1 result)]

def «show» (colored : Bool) (job : String) (result : Except Fault Snapshot) : Output :=
  let state := (shown job result).state
  let screen := Screen.render { colored } state.selected
  match state.error, state.selected with
  | some message, _ => .failure message screen.output ""
  | none, some log =>
    { out := screen.output
      errors :=
        painted colored .brightWhite "Status:" ++ " " ++ statusLabel colored log.status ++ "\n" }
  | none, none => { out := screen.output }

end BuildWatch.Command
