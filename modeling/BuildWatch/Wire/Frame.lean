import BuildWatch.Wire.Reply

/-!
# Frames of the live stream

A frame is a JSON object, a marker that the build is complete, or else a plain line of the log.
-/

namespace BuildWatch.Wire

open Json

/-! ## Completion markers -/

def markerStart : String := "BUILD_COMPLETE:"

/-- The status and the detail of a completion marker. Blanks at its end do not count. -/
def marker? (raw : String) : Option (Status × String) :=
  (Text.afterPrefix? markerStart.toList (Text.trimEnd raw.toList)).map fun rest =>
    let (status, detail) := Text.cutAt ':' rest
    (Status.ofWire (String.ofList status), String.ofList (detail.getD []))

/-! ## Structured frames -/

structure Frame where
  line : String
  status : Status
  isComplete : Bool
  errorMessage : String
  deriving DecidableEq, Repr

def frameRecord : Record Frame where
  name := "StreamFrame"
  fields := [
    .defaulted "line" Codec.text "",
    .defaulted "status" status .unspecified,
    .defaulted "is_complete" Codec.flag false,
    .sparse "error_message" Codec.text "" (· == "")]
  ofValues := fun (line, status, isComplete, errorMessage, ()) =>
    { line, status, isComplete, errorMessage }
  toValues value := (value.line, value.status, value.isComplete, value.errorMessage, ())

def frame : Codec Frame := frameRecord.codec

def Frame.result (frame : Frame) : Except Fault Chunk := do
  Fault.check frame.errorMessage
  .ok { line := frame.line, status := frame.status, isComplete := frame.isComplete }

/-! ## Decoding -/

inductive FrameError where
  | undecodable (problem : DecodeError)
  | refused (fault : Fault)
  deriving DecidableEq, Repr

def FrameError.fault : FrameError → Fault
  | undecodable problem => .protocol problem.message
  | refused fault => fault

def terminated (line : String) : String :=
  if line.toList.getLast? = some '\n' then line else line ++ "\n"

def isStructured (text : String) : Bool :=
  (Text.trimStart text.toList).head? == some '{'

def decodeFrame (text : String) : Except FrameError Chunk :=
  if isStructured text then
    match frame.decode text with
    | .error problem => .error (.undecodable problem)
    | .ok frame =>
      match frame.result with
      | .error fault => .error (.refused fault)
      | .ok chunk => .ok chunk
  else
    match marker? text with
    | some (status, _) => .ok { line := "", status, isComplete := true }
    | none => .ok { line := terminated text, status := .building, isComplete := false }

end BuildWatch.Wire
