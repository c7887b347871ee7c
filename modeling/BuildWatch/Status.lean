import BuildWatch.Text.Blank
import BuildWatch.Text.Letters

namespace BuildWatch

inductive Status where
  | unspecified
  | pending
  | building
  | success
  | failed
  deriving DecidableEq, Repr, Inhabited

namespace Status

def wire : Status → String
  | unspecified => "unspecified"
  | pending => "pending"
  | building => "building"
  | success => "success"
  | failed => "failed"

def all : List Status :=
  [unspecified, pending, building, success, failed]

def normal (raw : String) : String :=
  Text.lowered (Text.trimmed raw)

def parse? (raw : String) : Option Status :=
  all.find? fun status => status.wire == normal raw

def ofWire (raw : String) : Status :=
  (parse? raw).getD unspecified

def unknownMessage (raw : String) : String :=
  "unknown build status: " ++ normal raw

def isTerminal : Status → Bool
  | success | failed => true
  | _ => false

def isLive : Status → Bool
  | pending | building => true
  | _ => false

inductive Style where
  | success
  | failed
  | building
  | pending
  | unknown
  deriving DecidableEq, Repr

def style : Status → Style
  | .success => .success
  | .failed => .failed
  | .building => .building
  | .pending => .pending
  | .unspecified => .unknown

def Style.label : Style → String
  | success => "Success"
  | failed => "Failed"
  | building => "Building"
  | pending => "Pending"
  | unknown => "Unknown"

def Style.cssClass : Style → String
  | success => "status-success"
  | failed => "status-failed"
  | building => "status-building"
  | pending => "status-pending"
  | unknown => ""

def label (status : Status) : String :=
  status.style.label

/-! ## Laws -/

theorem parse?_wire (status : Status) : parse? status.wire = some status := by
  cases status <;> decide +kernel

@[simp] theorem ofWire_wire (status : Status) : ofWire status.wire = status := by
  simp [ofWire, parse?_wire]

theorem not_live_of_terminal {status : Status} (h : status.isTerminal) : status.isLive = false := by
  cases status <;> simp_all [isTerminal, isLive]

end Status

end BuildWatch
