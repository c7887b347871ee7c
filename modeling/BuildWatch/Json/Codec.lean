import BuildWatch.Json.Scan
import BuildWatch.Json.Skip

namespace BuildWatch.Json

abbrev Reader (α : Type) : Type := List Token → Except DecodeError (α × List Token)

structure Codec (α : Type) where
  write : α → List Token
  read : Reader α

/-! ## Complaints -/

def unexpected (expected : String) : List Token → DecodeError
  | [] => .truncated
  | .null :: _ => .mismatch (.wrongKind .null expected)
  | .flag value :: _ => .mismatch (.wrongKind (.flag value) expected)
  | .number value :: _ =>
    match value.quantity with
    | .whole n => .mismatch (.wrongKind (.whole n) expected)
    | .fraction => .mismatch (.wrongKind .fraction expected)
    | .beyond => .malformed
  | .text value :: _ => .mismatch (.wrongKind (.text value) expected)
  | .openList :: _ => .mismatch (.wrongKind .list expected)
  | .openObject :: _ => .mismatch (.wrongKind .object expected)
  | .badText read _ :: _ | .badValue read _ :: _ => .flaw read
  | _ => .malformed

def readColon : List Token → Except DecodeError (List Token)
  | [] => .error .truncated
  | .colon :: rest => .ok rest
  | _ => .error .malformed

def nextElement (first : Bool) : List Token → Except DecodeError (Option (List Token))
  | [] => .error .truncated
  | .closeList :: _ => .ok none
  | .comma :: rest =>
    if first then .ok (some (.comma :: rest))
    else
      match rest with
      | [] => .error .truncated
      | .closeList :: _ => .error .malformed
      | _ => .ok (some rest)
  | tokens => if first then .ok (some tokens) else .error .malformed

def closeList : List Token → Except DecodeError (List Token)
  | [] => .error .truncated
  | .closeList :: rest => .ok rest
  | _ => .error .malformed

namespace Codec

/-! ## Plain values -/

def text : Codec String where
  write value := [.text value]
  read
    | .text value :: rest => .ok (value, rest)
    | tokens => .error (unexpected "a string" tokens)

def flag : Codec Bool where
  write value := [.flag value]
  read
    | .flag value :: rest => .ok (value, rest)
    | tokens => .error (unexpected "a boolean" tokens)

def whole (name : String) (least most : Int) : Codec Int where
  write value := [.number (.ofInt value)]
  read
    | .number value :: rest =>
      match value.quantity with
      | .whole n =>
        if least ≤ n ∧ n ≤ most then .ok (n, rest)
        else .error (.mismatch (.outOfRange n name))
      | .fraction => .error (.mismatch (.wrongKind .fraction name))
      | .beyond => .error .malformed
    | tokens => .error (unexpected name tokens)

def map {α β : Type} (codec : Codec α) (rename : α → β) (back : β → α) : Codec β where
  write value := codec.write (back value)
  read tokens :=
    match codec.read tokens with
    | .ok (value, rest) => .ok (rename value, rest)
    | .error problem => .error problem

def optional {α : Type} (codec : Codec α) : Codec (Option α) where
  write
    | none => [.null]
    | some value => codec.write value
  read
    | .null :: rest => .ok (none, rest)
    | tokens =>
      match codec.read tokens with
      | .ok (value, rest) => .ok (some value, rest)
      | .error problem => .error problem

def variant {α : Type} (variants : String) (ofName? : String → Option α) (name : α → String) :
    Codec α where
  write value := [.text (name value)]
  read tokens :=
    let choose (written : String) : Except DecodeError α :=
      match ofName? written with
      | some value => .ok value
      | none => .error (.mismatch (.unknownVariant written variants))
    match tokens with
    | [] => .error .truncated
    | .text written :: rest => (choose written).map fun value => (value, rest)
    | .badText read _ :: _ => .error (.flaw read)
    | [.openObject] => .error .truncated
    | .openObject :: .badText read _ :: _ => .error (.flaw read)
    | .openObject :: .text written :: rest => do
      let value ← choose written
      let rest ← readColon rest
      match rest with
      | .null :: .closeObject :: rest => .ok (value, rest)
      | [.null] => .error .truncated
      | .null :: _ => .error .malformed
      | tokens => .error (unexpected "unit" tokens)
    | _ => .error .malformed

/-! ## Lists -/

def readElements {α : Type} (codec : Codec α) : Nat → Bool → Reader (List α)
  | 0, _, _ => .error .malformed
  | fuel + 1, first, tokens => do
    match ← nextElement first tokens with
    | none => .ok ([], tokens)
    | some tokens =>
      let (value, tokens) ← codec.read tokens
      let (values, tokens) ← readElements codec fuel false tokens
      .ok (value :: values, tokens)

def writeElements {α : Type} (codec : Codec α) : List α → List Token
  | [] => []
  | [value] => codec.write value
  | value :: values => codec.write value ++ .comma :: writeElements codec values

def list {α : Type} (codec : Codec α) : Codec (List α) where
  write values := .openList :: writeElements codec values ++ [.closeList]
  read
    | .openList :: tokens => do
      let (values, tokens) ← readElements codec (tokens.length + 1) true tokens
      let rest ← closeList tokens
      .ok (values, rest)
    | tokens => .error (unexpected "a sequence" tokens)

/-! ## Texts -/

def encode {α : Type} (codec : Codec α) (value : α) : String :=
  render (codec.write value)

def decode {α : Type} (codec : Codec α) (text : String) : Except DecodeError α :=
  match codec.read (scan text) with
  | .ok (value, []) => .ok value
  | .ok (_, _ :: _) => .error .malformed
  | .error problem => .error problem

/-- Bytes need not be a text to be decoded: a string that is passed over may hold any of them. -/
def decodeBytes {α : Type} (codec : Codec α) (bytes : ByteArray) : Except DecodeError α :=
  match codec.read (scanBytes bytes) with
  | .ok (value, []) => .ok value
  | .ok (_, _ :: _) => .error .malformed
  | .error problem => .error problem

theorem decodeBytes_toUTF8 {α : Type} (codec : Codec α) (text : String) :
    codec.decodeBytes text.toUTF8 = codec.decode text := by
  rw [decodeBytes, scanBytes_toUTF8, decode]

end Codec

end BuildWatch.Json
