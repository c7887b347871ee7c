import BuildWatch.Client.Socket

namespace BuildWatch.Client

inductive FrameKind where
  | continuation
  | text
  | binary
  | close
  | ping
  | pong
  | unknown
  deriving DecidableEq, Repr

def FrameKind.ofCode (code : UInt8) : FrameKind :=
  if code = 0 then .continuation
  else if code = 1 then .text
  else if code = 2 then .binary
  else if code = 8 then .close
  else if code = 9 then .ping
  else if code = 10 then .pong
  else .unknown

def FrameKind.code : FrameKind → UInt8
  | continuation => 0
  | text => 1
  | binary => 2
  | close => 8
  | ping => 9
  | pong => 10
  | unknown => 15

structure SocketFrame where
  kind : FrameKind
  isLast : Bool
  payload : ByteArray

def bigEndian (bytes : List UInt8) : Nat :=
  bytes.foldl (fun total byte => 256 * total + byte.toNat) 0

def bigEndianBytes (count n : Nat) : List UInt8 :=
  (List.range count).reverse.map fun i => UInt8.ofNat (n >>> (8 * i))

def masked (mask : List UInt8) (bytes : ByteArray) : ByteArray :=
  ⟨bytes.data.mapIdx fun i byte => byte ^^^ mask[i % 4]?.getD 0⟩

def SocketFrame.cut? (bytes : ByteArray) : Option (SocketFrame × ByteArray) := do
  let first ← bytes.data[0]?
  let second ← bytes.data[1]?
  let short := second.toNat % 128
  let extra := if short = 126 then 2 else if short = 127 then 8 else 0
  let maskSize := if 128 ≤ second.toNat then 4 else 0
  let start := 2 + extra + maskSize
  if bytes.size < start then none
  let part (low high : Nat) : List UInt8 := (bytes.extract low high).data.toList
  let length := if extra = 0 then short else bigEndian (part 2 (2 + extra))
  if bytes.size < start + length then none
  let payload := masked (part (2 + extra) start) (bytes.extract start (start + length))
  return ({ kind := .ofCode (first &&& 0x0F), isLast := 128 ≤ first.toNat, payload },
    bytes.extract (start + length) bytes.size)

def SocketFrame.encode (frame : SocketFrame) (mask : List UInt8) : ByteArray :=
  let size := frame.payload.size
  let length : List UInt8 :=
    if size < 126 then [UInt8.ofNat (128 + size)]
    else if size < 65536 then 254 :: bigEndianBytes 2 size
    else 255 :: bigEndianBytes 8 size
  let first := frame.kind.code + if frame.isLast then 128 else 0
  (first :: length ++ mask).toByteArray ++ masked mask frame.payload

/-! ## Messages -/

structure Assembly where
  kind : FrameKind := .unknown
  bytes : ByteArray := ByteArray.empty

inductive Assembled where
  | message (message : Message)
  | part (assembly : Assembly)
  | malformed

def messageOf (kind : FrameKind) (bytes : ByteArray) : Assembled :=
  match kind with
  | .text =>
    match Text.decode bytes with
    | .ok text => .message (.text text)
    | .error _ => .malformed
  | .binary => .message (.binary bytes)
  | _ => .malformed

def Assembly.take (assembly : Assembly) (frame : SocketFrame) : Assembled :=
  match frame.kind with
  | .close => .message .close
  | .ping => .message .ping
  | .pong => .message .pong
  | .unknown => .malformed
  | .continuation =>
    let bytes := assembly.bytes ++ frame.payload
    if frame.isLast then messageOf assembly.kind bytes else .part { assembly with bytes }
  | kind =>
    if assembly.kind ≠ .unknown then .malformed
    else if frame.isLast then messageOf kind frame.payload
    else .part { kind, bytes := frame.payload }

end BuildWatch.Client
