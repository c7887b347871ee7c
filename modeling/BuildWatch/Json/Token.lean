import BuildWatch.Json.Numeral
import BuildWatch.Json.Problem

namespace BuildWatch.Json

inductive Token where
  | openList
  | closeList
  | openObject
  | closeObject
  | comma
  | colon
  | null
  | flag (value : Bool)
  | number (value : Numeral)
  | text (value : String)
  /-- A string with half a surrogate pair, or with bytes that are no text, which can be passed over
  but not read. -/
  | unpaired
  | badText (read skip : Flaw)
  | badValue (read skip : Flaw)
  deriving DecidableEq, Repr

def escape? (c : Char) : Option Char :=
  if c = '"' then some '"'
  else if c = '\\' then some '\\'
  else if c = '\x08' then some 'b'
  else if c = '\x0c' then some 'f'
  else if c = '\n' then some 'n'
  else if c = '\r' then some 'r'
  else if c = '\t' then some 't'
  else none

def hexDigit (n : Nat) : Char :=
  if n < 10 then Char.ofNat ('0'.toNat + n) else Char.ofNat ('a'.toNat + (n - 10))

def written (c : Char) : List Char :=
  match escape? c with
  | some letter => ['\\', letter]
  | none =>
    if c.toNat < 0x20 then
      ['\\', 'u', '0', '0', hexDigit (c.toNat / 16), hexDigit (c.toNat % 16)]
    else [c]

namespace Token

def chars : Token → List Char
  | openList => ['[']
  | closeList => [']']
  | openObject => ['{']
  | closeObject => ['}']
  | comma => [',']
  | colon => [':']
  | null => ['n', 'u', 'l', 'l']
  | flag true => ['t', 'r', 'u', 'e']
  | flag false => ['f', 'a', 'l', 's', 'e']
  | number value => value.text
  | text value => '"' :: value.toList.flatMap written ++ ['"']
  | unpaired => []
  | badText _ _ => []
  | badValue _ _ => []

end Token

def render (tokens : List Token) : String :=
  String.ofList (tokens.flatMap Token.chars)

end BuildWatch.Json
