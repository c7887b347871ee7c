import BuildWatch.Text.Quoted

namespace BuildWatch.Json

inductive Flaw where
  | truncated
  | malformed
  deriving DecidableEq, Repr

inductive Found where
  | null
  | flag (value : Bool)
  | whole (value : Int)
  | fraction
  | text (value : String)
  | list
  | object
  deriving DecidableEq, Repr

def Found.describe : Found → String
  | null => "null"
  | flag true => "boolean `true`"
  | flag false => "boolean `false`"
  | whole value => "integer `" ++ toString value ++ "`"
  | fraction => "floating point"
  | text value => "string " ++ Text.quoted value
  | list => "sequence"
  | object => "map"

inductive Mismatch where
  | missingField (name : String)
  | duplicateField (name : String)
  | wrongKind (found : Found) (expected : String)
  | outOfRange (value : Int) (expected : String)
  | tooShort (length : Nat) (record : String) (fields : Nat)
  | unknownVariant (name : String) (variants : String)
  | badTimestamp
  deriving DecidableEq, Repr

def Mismatch.message : Mismatch → String
  | missingField name => "missing field `" ++ name ++ "`"
  | duplicateField name => "duplicate field `" ++ name ++ "`"
  | wrongKind found expected => "invalid type: " ++ found.describe ++ ", expected " ++ expected
  | outOfRange value expected =>
    "invalid value: integer `" ++ toString value ++ "`, expected " ++ expected
  | tooShort length record fields =>
    "invalid length " ++ toString length ++ ", expected struct " ++ record ++ " with " ++
      toString fields ++ (if fields = 1 then " element" else " elements")
  | unknownVariant name variants => "unknown variant `" ++ name ++ "`, expected " ++ variants
  | badTimestamp => "invalid timestamp"

inductive DecodeError where
  | flaw (flaw : Flaw)
  | mismatch (mismatch : Mismatch)
  deriving DecidableEq, Repr

namespace DecodeError

abbrev truncated : DecodeError := .flaw .truncated

abbrev malformed : DecodeError := .flaw .malformed

/-- What is said of a text that cannot be decoded, without the place in the text. For a text that is
no JSON, and for a time that is none, one text stands in for the many of the libraries that read
them. -/
def message : DecodeError → String
  | flaw .truncated => "unexpected end of text"
  | flaw .malformed => "malformed text"
  | mismatch problem => problem.message

end DecodeError

end BuildWatch.Json
