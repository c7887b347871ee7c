import BuildWatch.Terminal.Paint
import BuildWatch.View.Log
import BuildWatch.Text.Letters

namespace BuildWatch.Terminal

structure Section where
  job : String
  text : String
  deriving DecidableEq, Repr

inductive Delta where
  | nothing
  | append (text : String)
  | restart (text : String)
  deriving DecidableEq, Repr

def unseen? (shown : Option Section) (log : SelectedLog) : Option (List Char) :=
  shown.bind fun part =>
    if part.job = log.job then Text.afterPrefix? part.text.toList log.content.toList else none

def delta (shown : Option Section) (log : SelectedLog) : Delta :=
  match unseen? shown log with
  | some [] => .nothing
  | some (c :: rest) => .append (String.ofList (c :: rest))
  | none => if log.content = "" then .nothing else .restart log.content

def header (colored : Bool) (job : String) : String :=
  painted colored .dimmed ("── " ++ job ++ " ──") ++ "\n"

structure Screen where
  colored : Bool
  shown : Option Section := none
  output : String := ""
  deriving DecidableEq, Repr

namespace Screen

def render (screen : Screen) : Option SelectedLog → Screen
  | none => screen
  | some log =>
    let remembered : Section := { job := log.job, text := log.content }
    match delta screen.shown log with
    | .nothing => screen
    | .append text => { screen with shown := some remembered, output := screen.output ++ text }
    | .restart text =>
      { screen with
        shown := some remembered
        output := screen.output ++ header screen.colored log.job ++ text }

def writeLine (screen : Screen) (line : String) : Screen :=
  { screen with output := screen.output ++ line ++ "\n" }

end Screen

end BuildWatch.Terminal
