import BuildWatch.Instant.Printer
import BuildWatch.Records
import BuildWatch.Text.Columns
import BuildWatch.Text.Letters

namespace BuildWatch.Terminal

abbrev Cell : Type := List (List Char)

def cell (text : String) : Cell :=
  Text.lines text.toList

def Cell.width (cell : Cell) : Nat :=
  (cell.map Text.columns).foldl max 0

def columnWidths : List (List Cell) → List Nat
  | [] => []
  | [row] => row.map Cell.width
  | row :: rows => List.zipWith max (row.map Cell.width) (columnWidths rows)

structure Rule where
  left : Char
  fill : Char
  cross : Char
  right : Char
  deriving DecidableEq, Repr

def topRule : Rule := ⟨'┌', '─', '┬', '┐'⟩

def headRule : Rule := ⟨'╞', '═', '╪', '╡'⟩

def rowRule : Rule := ⟨'├', '╌', '┼', '┤'⟩

def bottomRule : Rule := ⟨'└', '─', '┴', '┘'⟩

def joined (separator : Char) : List (List Char) → List Char
  | [] => []
  | [part] => part
  | part :: parts => part ++ separator :: joined separator parts

def Rule.line (rule : Rule) (widths : List Nat) : List Char :=
  rule.left :: joined rule.cross (widths.map fun width => List.replicate (width + 2) rule.fill) ++
    [rule.right]

def paddedLine (width : Nat) (line : List Char) : List Char :=
  ' ' :: line ++ List.replicate (width - Text.columns line) ' ' ++ [' ']

def rowLines (widths : List Nat) (row : List Cell) : List (List Char) :=
  let height := (row.map List.length).foldl max 0
  (List.range height).map fun i =>
    '│' :: joined '┆' (List.zipWith (fun width cell => paddedLine width (cell[i]?.getD [])) widths
      row) ++ ['│']

def bodyLines (widths : List Nat) : List (List Cell) → List (List Char)
  | [] => []
  | [row] => rowLines widths row
  | row :: rows => rowLines widths row ++ rowRule.line widths :: bodyLines widths rows

def tableLines (head : List Cell) (rows : List (List Cell)) : List String :=
  let widths := columnWidths (head :: rows)
  (topRule.line widths :: rowLines widths head ++ headRule.line widths :: bodyLines widths rows ++
    [bottomRule.line widths]).map String.ofList

/-! ## The list of jobs -/

def timeText (time : Option Instant) : String :=
  (time.map Instant.brief).getD "-"

def summaryRow (summary : Summary) : List Cell :=
  [cell summary.job, cell summary.status.label, cell (timeText summary.created),
    cell (timeText summary.completed)]

def summaryTable (summaries : List Summary) : List String :=
  tableLines (["Job", "Status", "Started", "Finished"].map cell) (summaries.map summaryRow)

end BuildWatch.Terminal
