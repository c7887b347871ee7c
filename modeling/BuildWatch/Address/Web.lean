import BuildWatch.Address.Host

/-!
# Web addresses

The normal form of an `http` or `https` address: what a client asks for, and how it names that in
messages. Characters that cannot stand are escaped, steps like `..` are taken, and a name and a
password are left out.
-/

namespace BuildWatch.Address

/-! ## Paths -/

def isSlash (c : Char) : Bool :=
  c == '/' || c == '\\'

def isStay (step : List Char) : Bool :=
  [".", "%2e"].contains (Text.lowered (String.ofList step))

def isBack (step : List Char) : Bool :=
  ["..", ".%2e", "%2e.", "%2e%2e"].contains (Text.lowered (String.ofList step))

/-- Follows the steps of a path from those before. A path that ends in a step that adds nothing
ends in a slash. -/
def walk (before : List (List Char)) : List (List Char) → List (List Char)
  | [] => before
  | [last] =>
    if isBack last then before.dropLast ++ [[]]
    else if isStay last then before ++ [[]]
    else before ++ [last]
  | step :: rest =>
    if isBack step then walk before.dropLast rest
    else if isStay step then walk before rest
    else walk (before ++ [step]) rest

def steps (path : List Char) : List (List Char) :=
  Text.parts '/' ((path.map fun c => if isSlash c then '/' else c).drop 1)

def pathText (path : List Char) : List Char :=
  (walk [] ((steps path).map (escape inPath))).flatMap fun step => '/' :: step

/-! ## Authorities -/

def port? (usual : Nat) (text : List Char) : Option (Option Nat) :=
  if text.isEmpty then some none
  else if text.all Char.isDigit then
    match number? 10 text with
    | some n => if 65535 < n then none else some (if n = usual then none else some n)
    | none => none
  else none

def cutAtPort (inBrackets : Bool) : List Char → List Char × List Char
  | [] => ([], [])
  | c :: rest =>
    if c = ':' ∧ !inBrackets then ([], rest)
    else
      let (host, port) := cutAtPort (if c = '[' then true else if c = ']' then false else inBrackets)
        rest
      (c :: host, port)

def afterLast (mark : Char) (text : List Char) : List Char :=
  (text.reverse.takeWhile (· != mark)).reverse

def authority? (usual : Nat) (text : List Char) : Option (List Char) := do
  let (host, port) := cutAtPort false (afterLast '@' text)
  let host ← host? host
  match ← port? usual port with
  | none => return host
  | some n => return host ++ ':' :: decimalText n

/-! ## Addresses -/

def isAuthorityEnd (c : Char) : Bool :=
  isSlash c || c == '?' || c == '#'

def tail (mark : Char) (set : Char → Bool) : Option (List Char) → List Char
  | none => []
  | some text => mark :: escape set text

def cleaned (text : List Char) : List Char :=
  let isOuter (c : Char) : Bool := c.toNat ≤ 0x20
  (((text.dropWhile isOuter).reverse.dropWhile isOuter).reverse).filter fun c =>
    c ∉ ['\t', '\n', '\r']

def rest? (usual : Nat) (text : List Char) : Option (List Char) := do
  let text := text.dropWhile isSlash
  let authority ← authority? usual (text.takeWhile fun c => !isAuthorityEnd c)
  let (text, fragment) := Text.cutAt '#' (text.dropWhile fun c => !isAuthorityEnd c)
  let (path, query) := Text.cutAt '?' text
  return authority ++ pathText path ++ tail '?' inQuery query ++ tail '#' inFragment fragment

def normal? (address : String) : Option String :=
  let text := cleaned address.toList
  match Text.afterPrefix? "http:".toList text, Text.afterPrefix? "https:".toList text with
  | some rest, _ => (rest? 80 rest).map fun rest => "http://" ++ String.ofList rest
  | none, some rest => (rest? 443 rest).map fun rest => "https://" ++ String.ofList rest
  | none, none => none

end BuildWatch.Address
