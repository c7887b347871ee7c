import BuildWatch.Json.Token

namespace BuildWatch.Json

inductive Frame where
  | list
  | object
  deriving DecidableEq, Repr

inductive Awaited where
  | value
  | element
  | key
  | member
  | colon
  | next
  deriving DecidableEq, Repr

def skipFrom : Awaited → List Frame → List Token → Except DecodeError (List Token)
  | .next, [], tokens => .ok tokens
  | _, _, [] => .error .truncated
  | .next, .list :: stack, token :: rest =>
    match token with
    | .comma => skipFrom .value (.list :: stack) rest
    | .closeList => skipFrom .next stack rest
    | _ => .error .malformed
  | .next, .object :: stack, token :: rest =>
    match token with
    | .comma => skipFrom .key (.object :: stack) rest
    | .closeObject => skipFrom .next stack rest
    | _ => .error .malformed
  | .colon, stack, token :: rest =>
    match token with
    | .colon => skipFrom .value stack rest
    | _ => .error .malformed
  | .key, stack, token :: rest =>
    match token with
    | .text _ | .unpaired => skipFrom .colon stack rest
    | .badText _ skip => .error (.flaw skip)
    | _ => .error .malformed
  | .member, stack, token :: rest =>
    match token with
    | .text _ | .unpaired => skipFrom .colon stack rest
    | .badText _ skip => .error (.flaw skip)
    | .closeObject => skipFrom .next stack.tail rest
    | _ => .error .malformed
  | .value, stack, token :: rest =>
    match token with
    | .null | .flag _ | .number _ | .text _ | .unpaired => skipFrom .next stack rest
    | .openList => skipFrom .element (.list :: stack) rest
    | .openObject => skipFrom .member (.object :: stack) rest
    | .badText _ skip | .badValue _ skip => .error (.flaw skip)
    | _ => .error .malformed
  | .element, stack, token :: rest =>
    match token with
    | .null | .flag _ | .number _ | .text _ | .unpaired => skipFrom .next stack rest
    | .openList => skipFrom .element (.list :: stack) rest
    | .openObject => skipFrom .member (.object :: stack) rest
    | .closeList => skipFrom .next stack.tail rest
    | .badText _ skip | .badValue _ skip => .error (.flaw skip)
    | _ => .error .malformed

def skipValue (tokens : List Token) : Except DecodeError (List Token) :=
  skipFrom .value [] tokens

end BuildWatch.Json
