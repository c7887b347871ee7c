import BuildWatch.Address.Escape
import BuildWatch.Text.Letters

namespace BuildWatch.Address

def number? (base : Nat) (text : List Char) : Option Nat :=
  text.foldlM (fun total c =>
    (digitValue? c).bind fun digit => if digit < base then some (base * total + digit) else none) 0

def decimalText (n : Nat) : List Char :=
  (toString n).toList

def hexText (n : Nat) : List Char :=
  Nat.toDigits 16 n

/-! ## Four numbers -/

def ipv4Number? : List Char → Option Nat
  | [] => none
  | '0' :: 'x' :: rest | '0' :: 'X' :: rest => number? 16 rest
  | '0' :: c :: rest => number? 8 (c :: rest)
  | text => number? 10 text

def labels (name : List Char) : List (List Char) :=
  let labels := Text.parts '.' name
  if 1 < labels.length ∧ labels.getLast? = some [] then labels.dropLast else labels

def endsInNumber (name : List Char) : Bool :=
  match (labels name).getLast? with
  | none => false
  | some last => (!last.isEmpty && last.all Char.isDigit) || (ipv4Number? last).isSome

def ipv4Value? (numbers : List Nat) : Option Nat :=
  let firsts := numbers.dropLast
  let last := numbers.getLast?.getD 0
  let room := 1 <<< (8 * (4 - firsts.length))
  if numbers = [] ∨ 4 < numbers.length ∨ firsts.any (255 < ·) ∨ room ≤ last then none
  else some (firsts.foldl (fun total n => 256 * total + n) 0 * room + last)

def ipv4Text (value : Nat) : List Char :=
  List.intercalate ['.'] ([3, 2, 1, 0].map fun i => decimalText ((value >>> (8 * i)) % 256))

def ipv4? (name : List Char) : Option (List Char) := do
  let numbers ← (labels name).mapM ipv4Number?
  return ipv4Text (← ipv4Value? numbers)

/-! ## IPv6 -/

def embeddedIpv4? (text : List Char) : Option (List Nat) := do
  let numbers ← (Text.parts '.' text).mapM fun part =>
    match part with
    | [] => none
    | '0' :: _ :: _ => none
    | digits => (number? 10 digits).filter (· ≤ 255)
  match numbers with
  | [a, b, c, d] => some [256 * a + b, 256 * c + d]
  | _ => none

def piece? (text : List Char) : Option Nat :=
  if text.isEmpty ∨ 4 < text.length then none else number? 16 text

def pieces? : List (List Char) → Option (List Nat)
  | [] => some []
  | [last] => if last.contains '.' then embeddedIpv4? last else (piece? last).map fun n => [n]
  | first :: rest => do
    let n ← piece? first
    return n :: (← pieces? rest)

def side? (text : List Char) : Option (List Nat) :=
  if text.isEmpty then some [] else pieces? (Text.parts ':' text)

def cutAtGap : List Char → List Char × Option (List Char)
  | [] => ([], none)
  | ':' :: ':' :: rest => ([], some rest)
  | c :: rest => let (before, after) := cutAtGap rest; (c :: before, after)

def ipv6Pieces? (text : List Char) : Option (List Nat) :=
  match cutAtGap text with
  | (all, none) => (side? all).filter fun pieces => pieces.length = 8
  | (before, some after) => do
    if before.contains '.' then none
    let left ← side? before
    let right ← side? after
    let missing := 8 - (left.length + right.length)
    if missing = 0 then none
    else some (left ++ List.replicate missing 0 ++ right)

def zeros (pieces : List Nat) : Nat :=
  (pieces.takeWhile (· = 0)).length

def longestRun (pieces : List Nat) : Nat × Nat :=
  (List.range pieces.length).foldl (fun best start =>
    let length := zeros (pieces.drop start)
    if best.2 < length then (start, length) else best) (0, 0)

def colonText (pieces : List Nat) : List Char :=
  List.intercalate [':'] (pieces.map hexText)

def ipv6Text (pieces : List Nat) : List Char :=
  let (start, length) := longestRun pieces
  if length < 2 then colonText pieces
  else colonText (pieces.take start) ++ "::".toList ++ colonText (pieces.drop (start + length))

/-! ## Hosts -/

def isForbidden (c : Char) : Bool :=
  c.toNat ≤ 0x20 || 0x7F ≤ c.toNat || "#/:<>?@[\\]^|%".toList.contains c

def name? (text : List Char) : Option (List Char) :=
  let name := (unescapedBytes text).map fun byte => (Char.ofNat byte.toNat).toLower
  if name.isEmpty || name.any isForbidden then none
  else if endsInNumber name then ipv4? name
  else some name

def host? : List Char → Option (List Char)
  | '[' :: rest =>
    match rest.getLast? with
    | some ']' => (ipv6Pieces? rest.dropLast).map fun pieces => '[' :: ipv6Text pieces ++ [']']
    | _ => none
  | text => name? text

end BuildWatch.Address
