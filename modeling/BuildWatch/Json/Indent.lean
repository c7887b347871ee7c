import BuildWatch.Json.Codec

namespace BuildWatch.Json

def newLine (depth : Nat) : List Char :=
  '\n' :: List.replicate (2 * depth) ' '

def indentedFrom : Nat → List Token → List Char
  | _, [] => []
  | depth, .openList :: .closeList :: rest => '[' :: ']' :: indentedFrom depth rest
  | depth, .openObject :: .closeObject :: rest => '{' :: '}' :: indentedFrom depth rest
  | depth, .openList :: rest => '[' :: newLine (depth + 1) ++ indentedFrom (depth + 1) rest
  | depth, .openObject :: rest => '{' :: newLine (depth + 1) ++ indentedFrom (depth + 1) rest
  | depth, .closeList :: rest => newLine (depth - 1) ++ ']' :: indentedFrom (depth - 1) rest
  | depth, .closeObject :: rest => newLine (depth - 1) ++ '}' :: indentedFrom (depth - 1) rest
  | depth, .comma :: rest => ',' :: newLine depth ++ indentedFrom depth rest
  | depth, .colon :: rest => ':' :: ' ' :: indentedFrom depth rest
  | depth, token :: rest => token.chars ++ indentedFrom depth rest

def Codec.encodeIndented {α : Type} (codec : Codec α) (value : α) : String :=
  String.ofList (indentedFrom 0 (codec.write value))

end BuildWatch.Json
