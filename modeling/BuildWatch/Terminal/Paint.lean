import BuildWatch.Status

namespace BuildWatch.Terminal

inductive Paint where
  | red
  | green
  | yellow
  | cyan
  | brightWhite
  | dimmed
  deriving DecidableEq, Repr

def Paint.code : Paint → String
  | red => "31"
  | green => "32"
  | yellow => "33"
  | cyan => "36"
  | brightWhite => "97"
  | dimmed => "2"

def resumed (start : List Char) : List Char → List Char
  | '\x1b' :: '[' :: '0' :: 'm' :: rest =>
    '\x1b' :: '[' :: '0' :: 'm' :: start ++ resumed start rest
  | c :: rest => c :: resumed start rest
  | [] => []

theorem resumed_of_notMem {text : List Char} (start : List Char) (plain : '\x1b' ∉ text) :
    resumed start text = text := by
  fun_induction resumed start text with
  | case1 => simp at plain
  | case2 c rest _ ih => simp_all
  | case3 => rfl

def painted (colored : Bool) (paint : Paint) (text : String) : String :=
  if colored then
    let start := "\x1b[" ++ paint.code ++ "m"
    start ++ String.ofList (resumed start.toList text.toList) ++ "\x1b[0m"
  else text

def paintOf : Status.Style → Paint
  | .success => .green
  | .failed => .red
  | .building => .yellow
  | .pending => .cyan
  | .unknown => .dimmed

def statusLabel (colored : Bool) (status : Status) : String :=
  painted colored (paintOf status.style) status.label

end BuildWatch.Terminal
