import BuildWatch.Client.Exchange
import BuildWatch.Client.Link
import BuildWatch.Client.Place

namespace BuildWatch.Client

/-! ## Requests -/

def lineEnd : String := "\r\n"

def headText (place : Place) (token : Option String) (lines : List String) : String :=
  let authorization := (token.map fun token => "Authorization: Bearer " ++ token).toList
  String.intercalate lineEnd
    (["GET " ++ place.target ++ " HTTP/1.1", "Host: " ++ place.authority] ++ lines ++
      authorization ++ ["", ""])

def queryText (place : Place) (request : Request) : String :=
  headText place request.token ["Accept: */*", "Connection: close"]

def keyDigits : List Char :=
  "ABCDEFGHIJKLMNOPQRSTUVWXYZabcdefghijklmnopqrstuvwxyz0123456789+/".toList

def streamKey (random : List UInt8) : String :=
  let digit (i : Nat) (step : Nat) : Char :=
    keyDigits[(random[i]?.getD 0).toNat * step % 64]?.getD 'A'
  String.ofList ((List.range 21).map (digit · 1) ++ [digit 21 16, '=', '='])

def handshakeText (place : Place) (request : Request) (key : String) : String :=
  headText place request.token
    ["Connection: Upgrade", "Upgrade: websocket", "Sec-WebSocket-Version: 13",
      "Sec-WebSocket-Key: " ++ key]

/-! ## Responses -/

structure ResponseHead where
  status : Nat
  fields : List (String × String)
  deriving DecidableEq, Repr

namespace ResponseHead

def field? (head : ResponseHead) (name : String) : Option String :=
  (head.fields.find? fun entry => entry.1 == name).map Prod.snd

def fieldOf (line : List Char) : Option (String × String) :=
  match Text.cutAt ':' line with
  | (name, some value) =>
    some (Text.lowered (String.ofList name), Text.trimmed (String.ofList value))
  | (_, none) => none

def statusOf? (line : List Char) : Option Nat :=
  match Text.parts ' ' line with
  | _ :: code :: _ => if code.length = 3 then Address.number? 10 code else none
  | _ => none

def ofText? (text : String) : Option ResponseHead := do
  let lines := (Text.lines text.toList).map fun line => Text.dropFinal '\r' line
  let status ← statusOf? (← lines.head?)
  return { status, fields := lines.tail.filterMap fieldOf }

def isChunked (head : ResponseHead) : Bool :=
  (head.field? "transfer-encoding").any fun value =>
    Text.occurs "chunked".toList (Text.lower value.toList)

def length? (head : ResponseHead) : Option Nat :=
  (head.field? "content-length").bind fun value => Address.number? 10 value.toList

def isBare (head : ResponseHead) : Bool :=
  head.status < 200 || head.status == 204 || head.status == 304

end ResponseHead

def standsAt (bytes part : ByteArray) (i : Nat) : Bool :=
  (List.range part.size).all fun j => bytes.data[i + j]? == part.data[j]?

def positionFrom (bytes part : ByteArray) : (count i : Nat) → Option Nat
  | 0, _ => none
  | count + 1, i => if standsAt bytes part i then some i else positionFrom bytes part count (i + 1)

def position? (bytes part : ByteArray) : Option Nat :=
  positionFrom bytes part (bytes.size + 1 - part.size) 0

def cutHead? (bytes : ByteArray) : Option (Option ResponseHead × ByteArray) :=
  let gap := (lineEnd ++ lineEnd).toUTF8
  (position? bytes gap).map fun i =>
    (ResponseHead.ofText? (Text.lossy (bytes.extract 0 i)),
      bytes.extract (i + gap.size) bytes.size)

inductive Progress (α : Type) where
  | complete (value : α)
  | unfinished
  | malformed

def chunks (body bytes : ByteArray) : Nat → Progress ByteArray
  | 0 => .malformed
  | fuel + 1 =>
    match position? bytes lineEnd.toUTF8 with
    | none => .unfinished
    | some i =>
      let (size, _) := Text.cutAt ';' (Text.lossy (bytes.extract 0 i)).toList
      match if size.isEmpty then none else Address.number? 16 (Text.trim size) with
      | none => .malformed
      | some 0 => .complete body
      | some size =>
        let start := i + 2
        if bytes.size < start + size + 2 then .unfinished
        else
          chunks (body ++ bytes.extract start (start + size))
            (bytes.extract (start + size + 2) bytes.size) fuel

def bodyOf (head : ResponseHead) (bytes : ByteArray) (isEnd : Bool) : Progress ByteArray :=
  if head.isBare then .complete ByteArray.empty
  else if head.isChunked then chunks ByteArray.empty bytes (bytes.size + 1)
  else
    match head.length? with
    | some length =>
      if length ≤ bytes.size then .complete (bytes.extract 0 length) else .unfinished
    | none => if isEnd then .complete bytes else .unfinished

def responseOf (bytes : ByteArray) (isEnd : Bool) : Progress Response :=
  match cutHead? bytes with
  | none => if isEnd then .malformed else .unfinished
  | some (none, _) => .malformed
  | some (some head, rest) =>
    match bodyOf head rest isEnd with
    | .complete body => .complete { status := head.status, body }
    | .unfinished => if isEnd then .malformed else .unfinished
    | .malformed => .malformed

end BuildWatch.Client
