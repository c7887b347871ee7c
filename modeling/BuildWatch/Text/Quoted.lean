import BuildWatch.Text.Chart.Marks
import BuildWatch.Text.Chart.Vacant

namespace BuildWatch.Text

def hexDigits (n : Nat) : List Char :=
  Nat.toDigits 16 n

def isUnseen (c : Char) : Bool :=
  isMark c || isVacant c || isIgnorable c

def quotedChar (c : Char) : List Char :=
  if c = '\x00' then ['\\', '0']
  else if c = '\t' then ['\\', 't']
  else if c = '\n' then ['\\', 'n']
  else if c = '\r' then ['\\', 'r']
  else if c = '"' then ['\\', '"']
  else if c = '\\' then ['\\', '\\']
  else if isUnseen c then ['\\', 'u', '{'] ++ hexDigits c.toNat ++ ['}']
  else [c]

def quoted (text : String) : String :=
  String.ofList ('"' :: text.toList.flatMap quotedChar ++ ['"'])

end BuildWatch.Text
