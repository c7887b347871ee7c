namespace BuildWatch.Json

structure Numeral where
  negative : Bool
  whole : List Char
  fraction : List Char
  exponent : Option (Bool × List Char)
  deriving DecidableEq, Repr

inductive Quantity where
  | whole (value : Int)
  | fraction
  | beyond
  deriving DecidableEq, Repr

/-! ## Digits -/

def digitValue (c : Char) : Nat :=
  c.toNat - '0'.toNat

def ofDigits (digits : List Char) : Nat :=
  digits.foldl (fun n c => 10 * n + digitValue c) 0

def word : Nat := UInt64.size - 1

def takeWord : Nat → List Char → Nat × List Char
  | n, [] => (n, [])
  | n, c :: rest =>
    if n * 10 + digitValue c ≤ word then takeWord (n * 10 + digitValue c) rest else (n, c :: rest)

/-! ## Range -/

/-- A number rounded to 53 significant bits, a tie going to the even neighbour. -/
def round53 (n : Nat) : Nat :=
  if n.log2 < 53 then n
  else
    let scale := 1 <<< (n.log2 - 52)
    let quotient := n / scale
    let remainder := n % scale
    if 2 * remainder > scale || (2 * remainder == scale && quotient % 2 == 1) then
      (quotient + 1) * scale
    else quotient * scale

def rangeLimit : Nat := 1 <<< 1024 - 1 <<< 970

def isBeyond (significand : Nat) (scale : Int) : Bool :=
  if significand = 0 || scale < 0 then false
  else if scale > 308 then true
  else rangeLimit ≤ round53 significand * round53 (Nat.pow 10 scale.toNat)

namespace Numeral

def scaled (n : Numeral) : Nat × Int :=
  let (significand, restWhole) := takeWord 0 n.whole
  let (significand', restFraction) := takeWord significand n.fraction
  (significand', restWhole.length - (n.fraction.length - restFraction.length))

def isBeyondRange (n : Numeral) : Bool :=
  let (significand, scale) := n.scaled
  match n.exponent with
  | none => isBeyond significand scale
  | some (negative, digits) =>
    let exponent := ofDigits digits
    if negative then isBeyond significand (scale - exponent)
    else isBeyond significand (scale + exponent)

def quantity (n : Numeral) : Quantity :=
  let magnitude := ofDigits n.whole
  if n.fraction.isEmpty && n.exponent.isNone && !n.negative && magnitude ≤ word then
    .whole magnitude
  else if n.fraction.isEmpty && n.exponent.isNone && n.negative && 0 < magnitude &&
      2 * magnitude ≤ UInt64.size then
    .whole (-magnitude)
  else if n.isBeyondRange then .beyond
  else .fraction

def ofNat (n : Nat) : Numeral :=
  ⟨false, Nat.toDigits 10 n, [], none⟩

def ofInt (n : Int) : Numeral :=
  ⟨n < 0, Nat.toDigits 10 n.natAbs, [], none⟩

def text (n : Numeral) : List Char :=
  (if n.negative then ['-'] else []) ++ n.whole ++
    (if n.fraction.isEmpty then [] else '.' :: n.fraction) ++
    match n.exponent with
    | none => []
    | some (negative, digits) => 'e' :: (if negative then ['-'] else []) ++ digits

end Numeral

end BuildWatch.Json
