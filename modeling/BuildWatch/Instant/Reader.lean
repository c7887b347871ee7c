import BuildWatch.Instant.Basic
import BuildWatch.Text.Blank

namespace BuildWatch.Instant

def digits? (most : Nat) (text : List Char) : Option (List Char × List Char) :=
  let digits := (text.take most).takeWhile Char.isDigit
  if digits.isEmpty then none else some (digits, text.drop digits.length)

def number (digits : List Char) : Nat :=
  digits.foldl (fun n c => 10 * n + (c.toNat - '0'.toNat)) 0

def number? (most : Nat) (text : List Char) : Option (Nat × List Char) :=
  (digits? most (Text.trimStart text)).map fun (digits, rest) => (number digits, rest)

def mark? (mark : Char) (text : List Char) : Option (List Char) :=
  match Text.trimStart text with
  | c :: rest => if c = mark then some rest else none
  | [] => none

def year? (text : List Char) : Option (Int × List Char) :=
  match Text.trimStart text with
  | '-' :: rest => (digits? rest.length rest).map fun (digits, rest) => (-number digits, rest)
  | '+' :: rest => (digits? rest.length rest).map fun (digits, rest) => (number digits, rest)
  | text => (digits? 4 text).map fun (digits, rest) => (number digits, rest)

def fraction? : List Char → Option (Nat × List Char)
  | '.' :: text =>
    (digits? 9 text).map fun (digits, rest) =>
      (number (digits ++ List.replicate (9 - digits.length) '0'), rest.dropWhile Char.isDigit)
  | text => some (0, text)

def pair? : List Char → Option (Nat × List Char)
  | a :: b :: rest => if a.isDigit && b.isDigit then some (number [a, b], rest) else none
  | _ => none

def zone? (text : List Char) : Option (Int × List Char) :=
  let offset (ahead : Bool) (text : List Char) : Option (Int × List Char) := do
    let (hours, text) ← pair? text
    let text := text.dropWhile fun c => c == ':' || Text.isBlank c
    let (minutes, text) ← pair? text
    if hours < 24 ∧ minutes < 60 then
      let total : Int := (hours * 60 + minutes : Nat)
      some (if ahead then total else -total, text)
    else none
  match text with
  | 'Z' :: rest | 'z' :: rest => some (0, rest)
  | '+' :: rest => offset true rest
  | '-' :: rest | '−' :: rest => offset false rest
  | a :: b :: c :: rest =>
    if [a, b, c].map Char.toLower = ['u', 't', 'c'] then some (0, rest) else none
  | _ => none

def parse? (text : String) : Option Instant := do
  let (year, text) ← year? text.toList
  let text ← mark? '-' text
  let (month, text) ← number? 2 text
  let text ← mark? '-' text
  let (day, text) ← number? 2 text
  let text ← match text with
    | 'T' :: rest | 't' :: rest | ' ' :: rest => some rest
    | _ => none
  let (hour, text) ← number? 2 text
  let text ← mark? ':' text
  let (minute, text) ← number? 2 text
  let text ← mark? ':' text
  let (second, text) ← number? 2 text
  let (nanosecond, text) ← fraction? text
  let (ahead, text) ← zone? (Text.trimStart text)
  if Text.trimStart text ≠ [] then none
  let date ← Date.of? year month day
  let here ← of? date hour minute second nanosecond
  here.shift? (-ahead)

end BuildWatch.Instant
