import BuildWatch.Text.Chart.Emoji
import BuildWatch.Text.Chart.Joining
import BuildWatch.Text.Chart.Marks
import BuildWatch.Text.Chart.Wide

/-!
# Columns

How many columns of a terminal a line of text takes. Most characters have a width of their own. Some
change it with what follows them: pictures that are joined into one, characters that a selector
shows as a picture or as text, and letters that are written as one. So a line is measured from its
end to its start, and `Sequel` is what a character has to know of the text after it.

* `measured_append`: what stands in front of a text does not change what the text itself takes.
* `columns_eq_length`: up to the blank that does not break, each character takes one column.
-/

namespace BuildWatch.Text

/-! ## What follows -/

inductive JoiningLetter where
  | lamed
  | ya
  | vowelSign
  | consonant
  | joiner
  | toneLetter
  | orkhon
  | subscribed
  deriving DecidableEq, Repr

/-- What a text starts with, as far as it changes the width of the character before it. -/
inductive Sequel where
  | plain
  | lineFeed
  | tone
  | flagLetter
  | flagLetters
  | picture
  | joinedPicture
  | joinedKeycap
  | joinedFlagLetter
  | joinedFlags
  | joinedFlagsAndLetter
  | tagLetters (count : Nat)
  | tagDigits (count : Nat)
  | vowelE
  | vowelAi
  | alef
  | letter (letter : JoiningLetter) (joined : Bool)
  deriving DecidableEq, Repr

inductive Presentation where
  | picture
  | text
  | wide
  deriving DecidableEq, Repr

structure Right where
  sequel : Sequel
  presentation : Option Presentation
  deriving DecidableEq, Repr

def Right.of (sequel : Sequel) : Right :=
  ⟨sequel, none⟩

def Sequel.isLetter : Sequel → Bool
  | .alef | .letter .. => true
  | _ => false

def Sequel.isJoined : Sequel → Bool
  | .joinedPicture | .joinedKeycap => true
  | _ => false

def Right.select (right : Right) (presentation : Presentation) : Right :=
  if right.sequel.isLetter || (presentation = .picture && right.sequel.isJoined) then
    ⟨right.sequel, some presentation⟩
  else ⟨.plain, some presentation⟩

def Right.dropSelector (right : Right) : Right :=
  if right.presentation = none || right.sequel.isLetter then .of right.sequel else .of .plain

/-! ## Single characters -/

def columnsOf (c : Char) : Int :=
  if isFlagLetter c then 1
  else if c = '\u17D8' then 3
  else if c = '\u115F' || c = '\u17A4' then 2
  else if c = '\u2D7F' then 1
  else if isMark c || isIgnorable c || isWidthless c then 0
  else if isWide c then 2
  else 1

def sequelOf (c : Char) : Sequel :=
  if c = '\u05DC' then .letter .lamed false
  else if isAlef c then .alef
  else if isSubscribed c then .letter .subscribed true
  else if c = '\u1A10' then .letter .ya false
  else if isBiconsonant c then .letter .consonant false
  else if c = '\uA4FC' || c = '\uA4FD' then .letter .toneLetter true
  else if c.toNat = 0x10C03 then .letter .orkhon false
  else if c.toNat = 0x16D67 then .vowelE
  else if c.toNat = 0x16D68 then .vowelAi
  else if isFlagLetter c then .flagLetter
  else if isTone c then .tone
  else if isPicture c then .picture
  else .plain

def isCrossed (c : Char) : Bool :=
  columnsOf c = 0 && !isBreaking c

/-! ## Characters and what follows them -/

/-- The width that a character has because of what follows it, with what the two of them are for the
character before them; nothing if the character is not changed. -/
def joined? (c : Char) : Sequel → Option (Int × Sequel)
  | .alef =>
    if isLam c then some (0, .plain) else if isCrossed c then some (0, .alef) else none
  | .letter .lamed joined => if joined && c = '\u05D0' then some (0, .plain) else none
  | .letter .subscribed _ => if c = '\u17D2' then some (-1, .plain) else none
  | .letter .ya joined =>
    if joined && c = '\u1A17' then some (0, .letter .vowelSign true) else none
  | .letter .vowelSign _ => if c = '\u1A15' then some (0, .plain) else none
  | .letter .consonant joined =>
    if c = '\u2D7F' then some (1, .letter .joiner true)
    else if joined && isBiconsonant c then some (0, .plain)
    else none
  | .letter .joiner _ => if isBiconsonant c then some (-1, .plain) else none
  | .letter .toneLetter _ =>
    if 0xA4F8 ≤ c.toNat && c.toNat ≤ 0xA4FB then some (0, .plain) else none
  | .letter .orkhon joined => if joined && c.toNat = 0x10C32 then some (0, .plain) else none
  | .vowelE =>
    if c.toNat = 0x16D63 || c.toNat = 0x16D69 then some (0, .plain)
    else if c.toNat = 0x16D67 then some (0, .vowelAi)
    else if c.toNat = 0x16D68 then some (1, .vowelE)
    else none
  | .vowelAi => if c.toNat = 0x16D63 then some (0, .plain) else none
  | .tone =>
    if isToned c then some (0, .picture)
    else if c = '\u200D' then some (0, .joinedPicture)
    else none
  | .flagLetter => if isFlagLetter c then some (1, .flagLetters) else none
  | .flagLetters =>
    if isFlagLetter c then some (1, .flagLetters)
    else if c = '\u200D' then some (0, .joinedPicture)
    else none
  | .picture => if c = '\u200D' then some (0, .joinedPicture) else none
  | .joinedPicture =>
    if c = '\u20E3' then some (0, .joinedKeycap)
    else if isFlagLetter c then some (1, .joinedFlagLetter)
    else if isTone c then some (0, .tone)
    else if c.toNat = 0xE007F then some (0, .tagLetters 0)
    else if isPicture c then some (0, .picture)
    else none
  | .joinedFlagLetter => if isFlagLetter c then some (-1, .joinedFlags) else none
  | .joinedFlags =>
    if isFlagLetter c then some (3, .joinedFlagsAndLetter)
    else if c = '\u200D' then some (0, .joinedPicture)
    else none
  | .joinedFlagsAndLetter =>
    if isFlagLetter c then some (-1, .joinedFlags)
    else if c = '\u200D' then some (0, .joinedPicture)
    else none
  | .tagLetters count =>
    if isTagLetter c && count < 6 then some (0, .tagLetters (count + 1))
    else if isTagDigit c && count < 5 then some (0, .tagDigits 1)
    else if c.toNat = 0x1F3F4 && 3 ≤ count then some (0, .picture)
    else none
  | .tagDigits count =>
    if isTagDigit c && count < 3 then some (0, .tagDigits (count + 1))
    else if c.toNat = 0x1F3F4 && count = 3 then some (0, .picture)
    else none
  | .plain | .lineFeed | .joinedKeycap => none

def placed (c : Char) (sequel : Sequel) : Int × Right :=
  match sequel with
  | .letter letter joined =>
    if c = '\u200D' then (0, .of (.letter letter true))
    else if isSelector c then (0, .of (.letter letter joined))
    else joinedOrAlone c sequel
  | _ => joinedOrAlone c sequel
where
  joinedOrAlone (c : Char) (sequel : Sequel) : Int × Right :=
    match joined? c sequel with
    | some (width, sequel) => (width, .of sequel)
    | none => (columnsOf c, .of (sequelOf c))

def isCurlyQuote (c : Char) : Bool :=
  c = '\u2018' || c = '\u2019' || c = '\u201C' || c = '\u201D'

def step (c : Char) (right : Right) : Int × Right :=
  if right.presentation = some .picture && isVariant c then
    (if right.sequel.isJoined then 0 else 2, .of .picture)
  else if c ≤ '\u00A0' then
    if c = '\n' then (1, .of .lineFeed)
    else if c = '\r' && right = .of .lineFeed then (0, .of .plain)
    else (1, .of .plain)
  else if c = '\uFE0F' then (0, right.dropSelector.select .picture)
  else if c = '\uFE0E' then (0, right.dropSelector.select .text)
  else if c = '\uFE01' then (0, right.dropSelector.select .wide)
  else if right.presentation = some .text && isNarrowable c then (1, .of .plain)
  else if right.presentation = some .wide && isCurlyQuote c then (2, .of .plain)
  else placed c right.dropSelector.sequel

/-! ## Lines -/

def measured (line : List Char) (right : Right) : Int × Right :=
  line.foldr (fun c (width, right) => let (own, right) := step c right; (own + width, right))
    (0, right)

def columns (line : List Char) : Nat :=
  (measured line (.of .plain)).1.toNat

@[simp] theorem columns_nil : columns [] = 0 := rfl

theorem measured_cons (c : Char) (line : List Char) (right : Right) :
    measured (c :: line) right =
      ((step c (measured line right).2).1 + (measured line right).1,
        (step c (measured line right).2).2) := rfl

theorem measured_append (front text : List Char) (right : Right) :
    measured (front ++ text) right =
      ((measured front (measured text right).2).1 + (measured text right).1,
        (measured front (measured text right).2).2) := by
  induction front with
  | nil => simp [measured]
  | cons c front ih =>
    rw [List.cons_append, measured_cons, ih, measured_cons]
    simp only [Int.add_assoc]

theorem step_of_basic {c : Char} (basic : c ≤ '\u00A0') (notReturn : c ≠ '\r') (sequel : Sequel) :
    ∃ next, step c (.of sequel) = (1, .of next) := by
  by_cases feed : c = '\n'
  · exact ⟨.lineFeed, by simp [step, Right.of, feed]⟩
  · exact ⟨.plain, by simp [step, Right.of, basic, notReturn, feed]⟩

theorem columns_eq_length {line : List Char} (basic : ∀ c ∈ line, c ≤ '\u00A0' ∧ c ≠ '\r') :
    columns line = line.length := by
  have : ∃ next, measured line (.of .plain) = ((line.length : Int), .of next) := by
    induction line with
    | nil => exact ⟨.plain, rfl⟩
    | cons c line ih =>
      obtain ⟨sequel, tail⟩ := ih fun d mem => basic d (List.mem_cons_of_mem c mem)
      have head := basic c List.mem_cons_self
      obtain ⟨next, stepped⟩ := step_of_basic head.1 head.2 sequel
      refine ⟨next, ?_⟩
      rw [measured_cons, tail, stepped, List.length_cons, Int.add_comm]
      simp
  obtain ⟨next, whole⟩ := this
  simp [columns, whole]

end BuildWatch.Text
