import BuildWatch.Address.Web

namespace BuildWatch.Client

structure Place where
  host : String
  port : Nat
  target : String
  deriving DecidableEq, Repr

namespace Place

def usualPort : Nat := 80

def isPlainScheme (scheme : List Char) : Bool :=
  scheme == "http".toList || scheme == "ws".toList

def ofRest? (rest : List Char) : Option Place := do
  let isEnd (c : Char) : Bool := c == '/' || c == '?' || c == '#'
  let authority := rest.takeWhile fun c => !isEnd c
  let (host, port) := Address.cutAtPort false (Address.afterLast '@' authority)
  let (target, _) := Text.cutAt '#' (rest.dropWhile fun c => !isEnd c)
  let target := if target.head? = some '/' then target else '/' :: target
  let port ← if port.isEmpty then some usualPort else Address.number? 10 port
  if host.isEmpty || 65535 < port then none
  else some { host := String.ofList host, port, target := String.ofList target }

def ofAddress? (address : String) : Option Place :=
  match Text.cutAt ':' address.toList with
  | (scheme, some ('/' :: '/' :: rest)) => if isPlainScheme scheme then ofRest? rest else none
  | _ => none

def authority (place : Place) : String :=
  if place.port = usualPort then place.host else place.host ++ ":" ++ toString place.port

def bareHost (place : Place) : String :=
  String.ofList (place.host.toList.filter fun c => c != '[' && c != ']')

end Place

end BuildWatch.Client
