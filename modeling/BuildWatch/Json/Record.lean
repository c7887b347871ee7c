import BuildWatch.Json.Codec

namespace BuildWatch.Json

structure Field where
  name : String
  Carrier : Type
  codec : Codec Carrier
  absent : Option Carrier
  isOmitted : Carrier → Bool

namespace Field

def required {α : Type} (name : String) (codec : Codec α) : Field :=
  ⟨name, α, codec, none, fun _ => false⟩

def defaulted {α : Type} (name : String) (codec : Codec α) (absent : α) : Field :=
  ⟨name, α, codec, some absent, fun _ => false⟩

def sparse {α : Type} (name : String) (codec : Codec α) (absent : α) (isOmitted : α → Bool) :
    Field :=
  ⟨name, α, codec, some absent, isOmitted⟩

end Field

@[reducible] def Values : List Field → Type
  | [] => Unit
  | field :: fields => field.Carrier × Values fields

@[reducible] def Slots : List Field → Type
  | [] => Unit
  | field :: fields => Option field.Carrier × Slots fields

namespace Slots

def empty : (fields : List Field) → Slots fields
  | [] => ()
  | _ :: fields => (none, empty fields)

def read? : (fields : List Field) → Slots fields → String → List Token →
    Option (Except DecodeError (Slots fields × List Token))
  | [], _, _, _ => none
  | field :: fields, (slot, slots), key, tokens =>
    if key = field.name then
      some <|
        match slot with
        | some _ => .error (.mismatch (.duplicateField field.name))
        | none => do
          let tokens ← readColon tokens
          let (value, rest) ← field.codec.read tokens
          .ok ((some value, slots), rest)
    else
      (read? fields slots key tokens).map fun result =>
        result.map fun (slots, rest) => ((slot, slots), rest)

/-- The values of all fields, defaults included. The first field without a value is reported. -/
def complete : (fields : List Field) → Slots fields → Except DecodeError (Values fields)
  | [], _ => .ok ()
  | field :: fields, (slot, slots) =>
    match slot <|> field.absent with
    | none => .error (.mismatch (.missingField field.name))
    | some value => (complete fields slots).map fun values => (value, values)

end Slots

/-! ## Objects -/

def readMember (fields : List Field) (slots : Slots fields) (key : String) (tokens : List Token) :
    Except DecodeError (Slots fields × List Token) :=
  match Slots.read? fields slots key tokens with
  | some result => result
  | none => do
    let tokens ← readColon tokens
    let rest ← skipValue tokens
    .ok (slots, rest)

def nextKey (first : Bool) : List Token → Except DecodeError (Option (String × List Token))
  | [] => .error .truncated
  | .closeObject :: _ => .ok none
  | .text key :: rest => if first then .ok (some (key, rest)) else .error .malformed
  | .badText read _ :: _ => if first then .error (.flaw read) else .error .malformed
  | .comma :: rest =>
    if first then .error .malformed
    else
      match rest with
      | [] => .error .truncated
      | .text key :: rest => .ok (some (key, rest))
      | .badText read _ :: _ => .error (.flaw read)
      | _ => .error .malformed
  | _ => .error .malformed

def readMembers (fields : List Field) : Nat → Bool → Slots fields → Reader (Slots fields)
  | 0, _, _, _ => .error .malformed
  | fuel + 1, first, slots, tokens => do
    match ← nextKey first tokens with
    | none => .ok (slots, tokens)
    | some (key, tokens) =>
      let (slots, tokens) ← readMember fields slots key tokens
      readMembers fields fuel false slots tokens

def closeObject : List Token → Except DecodeError (List Token)
  | [] => .error .truncated
  | .closeObject :: rest => .ok rest
  | _ => .error .malformed

def readObject (fields : List Field) : Reader (Values fields) := fun tokens => do
  let (slots, tokens) ← readMembers fields (tokens.length + 1) true (Slots.empty fields) tokens
  let values ← Slots.complete fields slots
  let rest ← closeObject tokens
  .ok (values, rest)

/-! ## Lists of fields -/

def readFields (record : String) (count : Nat) : (fields : List Field) → (index : Nat) →
    (first : Bool) → Reader (Values fields)
  | [], _, _, tokens => .ok ((), tokens)
  | field :: fields, index, first, tokens => do
    match ← nextElement first tokens with
    | some tokens =>
      let (value, tokens) ← field.codec.read tokens
      let (values, tokens) ← readFields record count fields (index + 1) false tokens
      .ok ((value, values), tokens)
    | none =>
      match field.absent with
      | none => .error (.mismatch (.tooShort index record count))
      | some value =>
        let (values, tokens) ← readFields record count fields (index + 1) first tokens
        .ok ((value, values), tokens)

/-! ## Writing -/

def members : (fields : List Field) → Values fields → List (List Token)
  | [], _ => []
  | field :: fields, (value, values) =>
    if field.isOmitted value then members fields values
    else (.text field.name :: .colon :: field.codec.write value) :: members fields values

def separated : List (List Token) → List Token
  | [] => []
  | [tokens] => tokens
  | tokens :: others => tokens ++ .comma :: separated others

/-! ## Records -/

structure Record (ρ : Type) where
  name : String
  fields : List Field
  ofValues : Values fields → ρ
  toValues : ρ → Values fields

namespace Record

def codec {ρ : Type} (record : Record ρ) : Codec ρ where
  write value := .openObject :: separated (members record.fields (record.toValues value)) ++
    [.closeObject]
  read
    | .openObject :: tokens => do
      let (values, rest) ← readObject record.fields tokens
      .ok (record.ofValues values, rest)
    | .openList :: tokens => do
      let (values, tokens) ← readFields record.name record.fields.length record.fields 0 true tokens
      let rest ← closeList tokens
      .ok (record.ofValues values, rest)
    | tokens => .error (unexpected ("struct " ++ record.name) tokens)

end Record

end BuildWatch.Json
