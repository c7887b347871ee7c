namespace BuildWatch.Text

/-- The first bad sequence of some bytes: where it starts, and how long it is unless the bytes end
within it. -/
structure BadSequence where
  start : Nat
  length : Option Nat
  deriving DecidableEq, Repr

def BadSequence.message (bad : BadSequence) : String :=
  match bad.length with
  | some length =>
    "invalid utf-8 sequence of " ++ toString length ++ " bytes from index " ++ toString bad.start
  | none => "incomplete utf-8 byte sequence from index " ++ toString bad.start

abbrev ByteRange : Type := UInt8 × UInt8

def tailRange : ByteRange := (0x80, 0xBF)

def followers? (first : UInt8) : Option (List ByteRange) :=
  if first < 0x80 then some []
  else if first < 0xC2 then none
  else if first < 0xE0 then some [tailRange]
  else if first = 0xE0 then some [(0xA0, 0xBF), tailRange]
  else if first = 0xED then some [(0x80, 0x9F), tailRange]
  else if first < 0xF0 then some [tailRange, tailRange]
  else if first = 0xF0 then some [(0x90, 0xBF), tailRange, tailRange]
  else if first < 0xF4 then some [tailRange, tailRange, tailRange]
  else if first = 0xF4 then some [(0x80, 0x8F), tailRange, tailRange]
  else none

inductive Sequence where
  | character (length : Nat)
  | bad (length : Nat)
  | cut
  deriving DecidableEq, Repr

def follow : List ByteRange → List UInt8 → Nat → Sequence
  | [], _, length => .character length
  | _ :: _, [], _ => .cut
  | (least, most) :: ranges, byte :: bytes, length =>
    if least ≤ byte ∧ byte ≤ most then follow ranges bytes (length + 1) else .bad length

def firstBadFrom : List UInt8 → Nat → Nat → Option BadSequence
  | [], _, _ => none
  | _ :: bytes, skip + 1, index => firstBadFrom bytes skip (index + 1)
  | first :: bytes, 0, index =>
    match followers? first with
    | none => some { start := index, length := some 1 }
    | some ranges =>
      match follow ranges bytes 1 with
      | .character length => firstBadFrom bytes (length - 1) (index + 1)
      | .bad length => some { start := index, length := some length }
      | .cut => some { start := index, length := none }

def firstBad? (bytes : ByteArray) : Option BadSequence :=
  firstBadFrom bytes.data.toList 0 0

def decode (bytes : ByteArray) : Except BadSequence String :=
  match String.fromUTF8? bytes with
  | some text => .ok text
  | none => .error ((firstBad? bytes).getD { start := 0, length := none })

def lossyWithin : Nat → ByteArray → String
  | 0, _ => ""
  | fuel + 1, bytes =>
    match decode bytes with
    | .ok text => text
    | .error bad =>
      let sound := (String.fromUTF8? (bytes.extract 0 bad.start)).getD ""
      match bad.length with
      | none => sound ++ "\uFFFD"
      | some length =>
        sound ++ "\uFFFD" ++ lossyWithin fuel (bytes.extract (bad.start + length) bytes.size)

def lossy (bytes : ByteArray) : String :=
  lossyWithin (bytes.size + 1) bytes

def charactersWithin : Nat → ByteArray → List (Option Char)
  | 0, _ => []
  | fuel + 1, bytes =>
    match decode bytes with
    | .ok text => text.toList.map some
    | .error bad =>
      let sound := (String.fromUTF8? (bytes.extract 0 bad.start)).getD ""
      let length := bad.length.getD (bytes.size - bad.start)
      sound.toList.map some ++ List.replicate length none ++
        charactersWithin fuel (bytes.extract (bad.start + length) bytes.size)

/-- The characters of some bytes, with `none` for each byte that belongs to none. -/
def characters (bytes : ByteArray) : List (Option Char) :=
  charactersWithin (bytes.size + 1) bytes

theorem decode_toUTF8 (text : String) : decode text.toUTF8 = .ok text := by
  simp [decode, String.fromUTF8?, String.toUTF8, text.isValidUTF8, String.fromUTF8]

theorem characters_toUTF8 (text : String) : characters text.toUTF8 = text.toList.map some := by
  rw [characters, charactersWithin, decode_toUTF8]

end BuildWatch.Text
