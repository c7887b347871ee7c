import Mathlib.Data.List.Chain
import BuildWatch.Json.Scan

/-!
# Texts that spell tokens

The texts that stand for some tokens: with any blanks around them, any escapes in a string, any of
the forms that a number has.

* `Numeral.Spelled`, `Letters`, `Token.Spelled`, `Spelled`: the grammar of numbers, of strings, of
  tokens and of whole texts.
* `scanFrom_of_spelled`: a text is scanned to the tokens that it spells, whatever stands after it.
-/

namespace BuildWatch.Json

variable {mode next last : Mode} {c : Char} {text rest front : List Char}
  {token : Token} {tokens more : List Token} {negative : Bool}

/-! ## Steps of the scanner -/

/-- Some text takes the scanner from one mode to another and completes some tokens, whatever
follows. -/
def Scans (mode : Mode) (text : List Char) (tokens : List Token) (next : Mode) : Prop :=
  ∀ rest, scanFrom mode (text ++ rest) = tokens ++ scanFrom next rest

namespace Scans

theorem refl (mode : Mode) : Scans mode [] [] mode :=
  fun _ => rfl

theorem step (advances : advance mode c = (tokens, next)) : Scans mode [c] tokens next := by
  intro rest
  rw [List.singleton_append, scanFrom, advances]

theorem trans (first : Scans mode front tokens next) (second : Scans next text more last) :
    Scans mode (front ++ text) (tokens ++ more) last := by
  intro rest
  rw [List.append_assoc, first, second, List.append_assoc]

theorem cons (advances : advance mode c = ([], next)) (later : Scans next text tokens last) :
    Scans mode (c :: text) tokens last :=
  (step advances).trans later

theorem digits (seenIn : List Char → Mode) (text seen : List Char)
    (takes : ∀ seen c, c.isDigit → advance (seenIn seen) c = ([], seenIn (c :: seen)))
    (digits : ∀ c ∈ text, c.isDigit) :
    Scans (seenIn seen) text [] (seenIn (text.reverse ++ seen)) := by
  induction text generalizing seen with
  | nil => exact refl _
  | cons c text ih =>
    obtain ⟨first, others⟩ := List.forall_mem_cons.mp digits
    have later := ih (c :: seen) others
    rw [List.reverse_cons, List.append_assoc]
    exact cons (takes seen c first) later

end Scans

/-! ## Numbers -/

def Digits (text : List Char) : Prop :=
  text ≠ [] ∧ ∀ c ∈ text, c.isDigit

inductive Whole : List Char → Prop
  | zero : Whole ['0']
  | number {first : Char} {rest : List Char} (nonzero : first ≠ '0') (digit : first.isDigit)
      (digits : ∀ c ∈ rest, c.isDigit) : Whole (first :: rest)

inductive Point : List Char → List Char → Prop
  | none : Point [] []
  | digits {digits : List Char} (proper : Digits digits) : Point digits ('.' :: digits)

inductive Power : Option (Bool × List Char) → List Char → Prop
  | none : Power none []
  | plain {mark : Char} {digits : List Char} (marks : mark = 'e' ∨ mark = 'E')
      (proper : Digits digits) : Power (some (false, digits)) (mark :: digits)
  | plus {mark : Char} {digits : List Char} (marks : mark = 'e' ∨ mark = 'E')
      (proper : Digits digits) : Power (some (false, digits)) (mark :: '+' :: digits)
  | minus {mark : Char} {digits : List Char} (marks : mark = 'e' ∨ mark = 'E')
      (proper : Digits digits) : Power (some (true, digits)) (mark :: '-' :: digits)

structure Numeral.Spelled (n : Numeral) (text : List Char) : Prop where
  whole : Whole n.whole
  parts : ∃ point power, Point n.fraction point ∧ Power n.exponent power ∧
    text = (if n.negative then ['-'] else []) ++ n.whole ++ point ++ power

def Mode.numeral? : Mode → Option Numeral
  | .zero negative => some ⟨negative, ['0'], [], none⟩
  | .whole negative digits => some ⟨negative, digits.reverse, [], none⟩
  | .fraction negative digits decimals =>
    some ⟨negative, digits.reverse, decimals.reverse, none⟩
  | .exponentDigits negative digits decimals isMinus power =>
    some ⟨negative, digits.reverse, decimals.reverse, some (isMinus, power.reverse)⟩
  | _ => none

def continuesNumeral (c : Char) : Bool :=
  c.isDigit || c == '.' || c == 'e' || c == 'E'

def EndsNumeral (rest : List Char) : Prop :=
  ∀ c, rest.head? = some c → continuesNumeral c = false

theorem scanFrom_of_numeral {n : Numeral} (complete : mode.numeral? = some n)
    (ends : EndsNumeral rest) : scanFrom mode rest = .number n :: scanFrom .between rest := by
  cases rest with
  | nil => cases mode <;> simp_all [Mode.numeral?, scanFrom, finish]
  | cons c rest =>
    obtain ⟨⟨⟨digit, point⟩, small⟩, capital⟩ :
        ((c.isDigit = false ∧ c ≠ '.') ∧ c ≠ 'e') ∧ c ≠ 'E' := by
      simpa [continuesNumeral] using ends c rfl
    have stops : advance mode c = endNumeral n c := by
      cases mode <;> simp_all [Mode.numeral?, advance]
    rw [scanFrom, stops]
    rfl

structure AfterPoint (negative : Bool) (whole fraction : List Char) (mode : Mode) : Prop where
  complete : mode.numeral? = some ⟨negative, whole, fraction, none⟩
  power : ∀ mark, mark = 'e' ∨ mark = 'E' →
    advance mode mark = ([], .exponent negative whole.reverse fraction.reverse)

theorem start_of_digit (digit : c.isDigit) (nonzero : c ≠ '0') :
    start c = ([], .whole false [c]) := by
  have other (d : Char) (plain : d.isDigit = false) : c ≠ d := by
    rintro rfl
    rw [digit] at plain
    cases plain
  simp [start, isSpace, digit, nonzero, other ' ' rfl, other '\n' rfl,
    other '\t' rfl, other '\r' rfl, other '[' rfl, other ']' rfl,
    other '{' rfl, other '}' rfl, other ',' rfl, other ':' rfl,
    other '"' rfl, other 'n' rfl, other 't' rfl, other 'f' rfl,
    other '-' rfl]

theorem scans_whole (negative : Bool) {whole : List Char} (proper : Whole whole) :
    ∃ mode, AfterPoint negative whole [] mode ∧
      advance mode '.' = ([], .point negative whole.reverse) ∧
      Scans (if negative then .minus else .between) whole [] mode := by
  cases proper with
  | zero =>
    refine ⟨.zero negative, ⟨rfl, ?_⟩, rfl, .step ?_⟩
    · rintro mark (rfl | rfl) <;> rfl
    · cases negative <;> rfl
  | @number first rest nonzero digit digits =>
    have begun : advance (if negative then .minus else .between) first =
        ([], .whole negative [first]) := by
      cases negative with
      | false => exact start_of_digit digit nonzero
      | true => simp [advance, nonzero, digit]
    have taken := Scans.digits (.whole negative) rest [first]
      (fun seen c digit => by simp [advance, digit]) digits
    refine ⟨.whole negative (first :: rest).reverse, ⟨?_, ?_⟩, rfl, ?_⟩
    · simp [Mode.numeral?]
    · rintro mark (rfl | rfl) <;> rfl
    · rw [List.reverse_cons]
      exact .cons begun taken

theorem scans_point {whole fraction point : List Char} (spelled : Point fraction point)
    (after : AfterPoint negative whole [] mode)
    (pointed : advance mode '.' = ([], .point negative whole.reverse)) :
    ∃ next, AfterPoint negative whole fraction next ∧ Scans mode point [] next := by
  cases spelled with
  | none => exact ⟨mode, after, .refl mode⟩
  | digits proper =>
    obtain ⟨some_digits, digits⟩ := proper
    obtain ⟨first, rest, rfl⟩ := List.exists_cons_of_ne_nil some_digits
    obtain ⟨digit, others⟩ := List.forall_mem_cons.mp digits
    have begun : advance (.point negative whole.reverse) first =
        ([], .fraction negative whole.reverse [first]) := by
      simp [advance, digit]
    have taken := Scans.digits (.fraction negative whole.reverse) rest [first]
      (fun seen c digit => by simp [advance, digit]) others
    refine ⟨.fraction negative whole.reverse (first :: rest).reverse, ⟨?_, ?_⟩, ?_⟩
    · simp [Mode.numeral?]
    · rintro mark (rfl | rfl) <;> rfl
    · rw [List.reverse_cons]
      exact .cons pointed (.cons begun taken)

theorem scans_power {whole fraction power : List Char} {exponent : Option (Bool × List Char)}
    (spelled : Power exponent power) (after : AfterPoint negative whole fraction mode) :
    ∃ next, next.numeral? = some ⟨negative, whole, fraction, exponent⟩ ∧
      Scans mode power [] next := by
  -- The digits of a power are read alike, with or without a sign before them.
  have taken (before : Mode) (minus : Bool) {digits : List Char} (proper : Digits digits)
      (begins : ∀ c, c.isDigit → advance before c =
        ([], .exponentDigits negative whole.reverse fraction.reverse minus [c])) :
      ∃ next, next.numeral? = some ⟨negative, whole, fraction, some (minus, digits)⟩ ∧
        Scans before digits [] next := by
    obtain ⟨some_digits, digits⟩ := proper
    obtain ⟨first, rest, rfl⟩ := List.exists_cons_of_ne_nil some_digits
    obtain ⟨digit, others⟩ := List.forall_mem_cons.mp digits
    have later := Scans.digits
      (.exponentDigits negative whole.reverse fraction.reverse minus) rest [first]
      (fun seen c digit => by simp [advance, digit]) others
    exact ⟨_, by simp [Mode.numeral?], .cons (begins first digit) later⟩
  have unsigned {digit : Char} (isDigit : digit.isDigit) : digit ≠ '+' ∧ digit ≠ '-' := by
    constructor <;> rintro rfl <;> cases isDigit
  cases spelled with
  | none => exact ⟨mode, after.complete, .refl mode⟩
  | plain marks proper =>
    obtain ⟨next, complete, scans⟩ := taken (.exponent negative whole.reverse fraction.reverse)
      false proper fun c digit => by simp [advance, digit, unsigned digit]
    exact ⟨next, complete, .cons (after.power _ marks) scans⟩
  | plus marks proper =>
    obtain ⟨next, complete, scans⟩ := taken
      (.exponentSign negative whole.reverse fraction.reverse false) false proper
      fun c digit => by simp [advance, digit]
    exact ⟨next, complete, .cons (after.power _ marks) (.cons rfl scans)⟩
  | minus marks proper =>
    obtain ⟨next, complete, scans⟩ := taken
      (.exponentSign negative whole.reverse fraction.reverse true) true proper
      fun c digit => by simp [advance, digit]
    exact ⟨next, complete, .cons (after.power _ marks) (.cons rfl scans)⟩

theorem Numeral.Spelled.scans {n : Numeral} (spelled : n.Spelled text) :
    ∃ mode, mode.numeral? = some n ∧ Scans .between text [] mode := by
  obtain ⟨negative, whole, fraction, exponent⟩ := n
  obtain ⟨proper, point, power, pointed, powered, rfl⟩ := spelled
  obtain ⟨mode, after, points, scans⟩ := scans_whole negative proper
  obtain ⟨next, later, scansPoint⟩ := scans_point pointed after points
  obtain ⟨last, complete, scansPower⟩ := scans_power powered later
  refine ⟨last, complete, ?_⟩
  have signed : Scans .between (if negative then ['-'] else []) []
      (if negative then .minus else .between) := by
    cases negative with
    | false => exact .refl _
    | true => exact .step rfl
  exact ((signed.trans scans).trans scansPoint).trans scansPower

/-! ## Strings -/

inductive CodeUnit : List Char → Nat → Prop
  | digits {a b c d : Char} {w x y z : Nat} (first : hexValue? a = some w)
      (second : hexValue? b = some x) (third : hexValue? c = some y)
      (fourth : hexValue? d = some z) : CodeUnit [a, b, c, d] (((w * 16 + x) * 16 + y) * 16 + z)

def NoLowNext (text : List Char) : Prop :=
  ∀ digits low rest, text = '\\' :: 'u' :: (digits ++ rest) → CodeUnit digits low →
    isLowSurrogate low = false

/-- What stands between the quotes of a string, and the characters it is for. There are none for
a half of a surrogate pair that stands alone. -/
inductive Letters : List Char → Option (List Char) → Prop
  | nil : Letters [] (some [])
  | plain {c : Char} {text : List Char} {value : Option (List Char)} (unquoted : c ≠ '"')
      (unescaped : c ≠ '\\') (printed : 0x20 ≤ c.toNat) (rest : Letters text value) :
      Letters (c :: text) (value.map (c :: ·))
  | escape {letter c : Char} {text : List Char} {value : Option (List Char)}
      (escapes : unescape? letter = some c) (rest : Letters text value) :
      Letters ('\\' :: letter :: text) (value.map (c :: ·))
  | unit {digits : List Char} {n : Nat} {text : List Char} {value : Option (List Char)}
      (unit : CodeUnit digits n) (high : isHighSurrogate n = false) (low : isLowSurrogate n = false)
      (rest : Letters text value) :
      Letters ('\\' :: 'u' :: (digits ++ text)) (value.map (Char.ofNat n :: ·))
  | pair {highDigits lowDigits : List Char} {first second : Nat} {text : List Char}
      {value : Option (List Char)} (highUnit : CodeUnit highDigits first)
      (high : isHighSurrogate first) (lowUnit : CodeUnit lowDigits second)
      (low : isLowSurrogate second) (rest : Letters text value) :
      Letters ('\\' :: 'u' :: (highDigits ++ '\\' :: 'u' :: (lowDigits ++ text)))
        (value.map (ofSurrogates first second :: ·))
  | loneHigh {digits : List Char} {n : Nat} {text : List Char} {value : Option (List Char)}
      (unit : CodeUnit digits n) (high : isHighSurrogate n) (alone : NoLowNext text)
      (rest : Letters text value) : Letters ('\\' :: 'u' :: (digits ++ text)) none
  | loneLow {digits : List Char} {n : Nat} {text : List Char} {value : Option (List Char)}
      (unit : CodeUnit digits n) (low : isLowSurrogate n)
      (rest : Letters text value) : Letters ('\\' :: 'u' :: (digits ++ text)) none

theorem utf8Size_of_hex {v : Nat} (hex : hexValue? c = some v) : c.utf8Size = 1 := by
  have small : c.toNat < 128 := by
    unfold hexValue? at hex
    split at hex
    · rename_i range
      exact Nat.lt_of_le_of_lt (UInt32.le_iff_toNat_le.mp range.2) (by decide)
    · split at hex
      · rename_i range
        exact Nat.lt_of_le_of_lt (UInt32.le_iff_toNat_le.mp range.2) (by decide)
      · split at hex
        · rename_i range
          exact Nat.lt_of_le_of_lt (UInt32.le_iff_toNat_le.mp range.2) (by decide)
        · cases hex
  rw [Char.utf8Size_eq_one_iff, UInt32.le_iff_toNat_le]
  exact Nat.le_of_lt_succ small

theorem scans_codeUnit {digits : List Char} {n : Nat} (unit : CodeUnit digits n)
    {seen : List Char} {paired : Bool} {first : Option Nat}
    (ends : endUnit seen paired first digits.reverse = ([], next)) :
    Scans (.unit seen paired first [] 0) digits [] next := by
  have takes {digit : Char} {v : Nat} (hex : hexValue? digit = some v) {digits : List Char}
      {bytes : Nat} (few : bytes + 1 < 4) :
      advance (.unit seen paired first digits bytes) digit =
        ([], .unit seen paired first (digit :: digits) (bytes + 1)) := by
    simp [advance, utf8Size_of_hex hex, few]
  cases unit with
  | digits hexA hexB hexC hexD =>
    refine .cons (takes hexA (by decide)) (.cons (takes hexB (by decide))
      (.cons (takes hexC (by decide)) (.step ?_)))
    simpa [advance, utf8Size_of_hex hexD] using ends

theorem codeUnit?_of_codeUnit {digits : List Char} {n : Nat} (unit : CodeUnit digits n) :
    codeUnit? digits = some n := by
  cases unit with
  | digits hexA hexB hexC hexD => simp [codeUnit?, hexA, hexB, hexC, hexD]

section
variable {digits : List Char} {n : Nat} (unit : CodeUnit digits n)
include unit

theorem scans_unit (seen : List Char) (paired : Bool) :
    Scans (.text seen paired) ('\\' :: 'u' :: digits) []
      (if isHighSurrogate n then .half seen paired n
      else if isLowSurrogate n then .text seen false
      else .text (Char.ofNat n :: seen) paired) := by
  have begun : advance (.text seen paired) '\\' = ([], .escape seen paired) := rfl
  refine .cons begun (.cons rfl (scans_codeUnit unit ?_))
  simp only [endUnit, List.reverse_reverse, codeUnit?_of_codeUnit unit]
  split
  · rfl
  · split <;> rfl

theorem scans_unit_of_half (seen : List Char) (paired : Bool) (high : Nat) :
    Scans (.half seen paired high) ('\\' :: 'u' :: digits) []
      (if isLowSurrogate n then .text (ofSurrogates high n :: seen) paired
      else .text seen false) := by
  have begun : advance (.half seen paired high) '\\' = ([], .halfEscape seen paired high) := rfl
  refine .cons begun (.cons rfl (scans_codeUnit unit ?_))
  simp only [endUnit, List.reverse_reverse, codeUnit?_of_codeUnit unit]
  split <;> rfl

end

theorem high_ne_low {n : Nat} (high : isHighSurrogate n) : isLowSurrogate n = false := by
  simp only [isHighSurrogate, isLowSurrogate, Bool.and_eq_true, decide_eq_true_eq] at high ⊢
  simp only [Bool.and_eq_false_iff, decide_eq_false_iff_not]
  omega

theorem low_ne_high {n : Nat} (low : isLowSurrogate n) : isHighSurrogate n = false := by
  rw [Bool.eq_false_iff]
  intro high
  rw [high_ne_low high] at low
  cases low

def stringOf (seen : List Char) (paired : Bool) : Option (List Char) → Token
  | some letters => stringToken (letters.reverse ++ seen) paired
  | none => .unpaired

theorem stringOf_map (seen : List Char) (paired : Bool) (value : Option (List Char)) (c : Char) :
    stringOf seen paired (value.map (c :: ·)) = stringOf (c :: seen) paired value := by
  cases value with
  | none => rfl
  | some letters => simp [stringOf]

theorem stringOf_unpaired (seen : List Char) (value : Option (List Char)) :
    stringOf seen false value = .unpaired := by
  cases value <;> rfl

theorem unescape?_u : unescape? 'u' = none := by decide

theorem Letters.scans {value : Option (List Char)} (letters : Letters text value) :
    (∀ seen paired, Scans (.text seen paired) (text ++ ['"']) [stringOf seen paired value]
      .between) ∧
    (NoLowNext text → ∀ seen paired high,
      Scans (.half seen paired high) (text ++ ['"']) [.unpaired] .between) := by
  have broken {text : List Char} {value : Option (List Char)}
      (scans : ∀ seen paired, Scans (.text seen paired) (text ++ ['"'])
        [stringOf seen paired value] .between) (seen : List Char) :
      Scans (.text seen false) (text ++ ['"']) [.unpaired] .between := by
    have later := scans seen false
    rwa [stringOf_unpaired] at later
  induction letters with
  | nil =>
    refine ⟨fun seen paired => .step ?_, fun _ seen paired high => .step ?_⟩
    · simp [advance, inText, stringOf]
    · simp [advance, inText, stringToken]
  | @plain c text value unquoted unescaped printed rest ih =>
    have taken (seen : List Char) (paired : Bool) :
        inText seen paired c = ([], .text (c :: seen) paired) := by
      simp [inText, unquoted, unescaped, Nat.not_lt.mpr printed]
    refine ⟨fun seen paired => ?_, fun _ seen paired high => ?_⟩
    · rw [stringOf_map]
      exact .cons (taken seen paired) (ih.1 _ _)
    · have half : advance (.half seen paired high) c = ([], .text (c :: seen) false) := by
        rw [advance, if_neg unescaped, taken]
      exact .cons half (broken ih.1 _)
  | @escape letter c text value escapes rest ih =>
    have known : letter ≠ 'u' := by
      rintro rfl
      rw [unescape?_u] at escapes
      cases escapes
    refine ⟨fun seen paired => ?_, fun _ seen paired high => ?_⟩
    · have taken : advance (.escape seen paired) letter = ([], .text (c :: seen) paired) := by
        simp [advance, known, escapes]
      rw [stringOf_map]
      exact .cons rfl (.cons taken (ih.1 _ _))
    · have taken : advance (.halfEscape seen paired high) letter = ([], .text seen false) := by
        simp [advance, known, escapes]
      exact .cons rfl (.cons taken (broken ih.1 seen))
  | unit unit high low rest ih =>
    rw [← List.cons_append, ← List.cons_append, List.append_assoc]
    refine ⟨fun seen paired => ?_, fun _ seen paired first => ?_⟩
    · have taken := scans_unit unit seen paired
      simp only [high, low, Bool.false_eq_true, if_false] at taken
      rw [stringOf_map]
      exact taken.trans (ih.1 _ _)
    · have taken := scans_unit_of_half unit seen paired first
      simp only [low, Bool.false_eq_true, if_false] at taken
      exact taken.trans (broken ih.1 seen)
  | @pair highDigits lowDigits first second text value highUnit high lowUnit low rest ih =>
    have splitText : '\\' :: 'u' :: (highDigits ++ '\\' :: 'u' :: (lowDigits ++ text)) ++ ['"'] =
        ('\\' :: 'u' :: highDigits) ++ (('\\' :: 'u' :: lowDigits) ++ (text ++ ['"'])) := by
      simp
    rw [splitText]
    refine ⟨fun seen paired => ?_, fun _ seen paired before => ?_⟩
    · have taken := scans_unit highUnit seen paired
      have joined := scans_unit_of_half lowUnit seen paired first
      simp only [high, low, if_true] at taken joined
      rw [stringOf_map]
      exact taken.trans (joined.trans (ih.1 _ _))
    · -- The first half is taken for the second one of the half before it, so its own is left alone.
      have taken := scans_unit_of_half highUnit seen paired before
      have alone := scans_unit lowUnit seen false
      simp only [high_ne_low high, low_ne_high low, low, Bool.false_eq_true, if_false, if_true]
        at taken alone
      exact taken.trans (alone.trans (broken ih.1 seen))
  | loneHigh unit high alone rest ih =>
    rw [← List.cons_append, ← List.cons_append, List.append_assoc]
    refine ⟨fun seen paired => ?_, fun _ seen paired first => ?_⟩
    · have taken := scans_unit unit seen paired
      simp only [high, if_true] at taken
      exact taken.trans (ih.2 alone seen paired _)
    · have taken := scans_unit_of_half unit seen paired first
      simp only [high_ne_low high, Bool.false_eq_true, if_false] at taken
      exact taken.trans (broken ih.1 seen)
  | loneLow unit low rest ih =>
    rw [← List.cons_append, ← List.cons_append, List.append_assoc]
    refine ⟨fun seen paired => ?_, fun noLow seen paired first => ?_⟩
    · have taken := scans_unit unit seen paired
      simp only [low_ne_high low, low, Bool.false_eq_true, if_false, if_true] at taken
      exact taken.trans (broken ih.1 seen)
    · rw [noLow _ _ _ rfl unit] at low
      cases low

/-! ## Tokens and texts -/

def Token.isNumber : Token → Bool
  | number _ => true
  | _ => false

def Token.fixed : List Token :=
  [openList, closeList, openObject, closeObject, comma, colon, null, flag true, flag false]

inductive Token.Spelled : Token → List Char → Prop
  | fixed {token : Token} (known : token ∈ Token.fixed) : Token.Spelled token token.chars
  | number {n : Numeral} {text : List Char} (spelled : n.Spelled text) :
      Token.Spelled (.number n) text
  | text {letters value : List Char} (spelled : Letters letters (some value)) :
      Token.Spelled (.text (String.ofList value)) ('"' :: (letters ++ ['"']))
  | unpaired {letters : List Char} (spelled : Letters letters none) :
      Token.Spelled .unpaired ('"' :: (letters ++ ['"']))

/-- A text for some tokens, with blanks before and after each of them. -/
inductive Spelled : List Token → List Char → Prop
  | nil {blanks : List Char} (blank : ∀ c ∈ blanks, isSpace c) : Spelled [] blanks
  | cons {token : Token} {tokens : List Token} {blanks front text : List Char}
      (blank : ∀ c ∈ blanks, isSpace c) (spelled : token.Spelled front)
      (rest : Spelled tokens text) : Spelled (token :: tokens) (blanks ++ (front ++ text))

def Apart (tokens : List Token) : Prop :=
  tokens.IsChain fun left right => left.isNumber = false ∨ right.isNumber = false

theorem Token.Spelled.scans (spelled : token.Spelled text) (other : token.isNumber = false) :
    Scans .between text [token] .between := by
  have opened : advance .between '"' = ([], .text [] true) := rfl
  cases spelled with
  | fixed known =>
    simp only [Token.fixed, List.mem_cons, List.not_mem_nil, or_false] at known
    rcases known with rfl | rfl | rfl | rfl | rfl | rfl | rfl | rfl | rfl <;> exact fun _ => rfl
  | number => cases other
  | @text letters value spelled =>
    have scans := (spelled.scans).1 [] true
    rw [stringOf, List.append_nil, stringToken, if_pos rfl, List.reverse_reverse] at scans
    exact .cons opened scans
  | unpaired spelled => exact .cons opened ((spelled.scans).1 [] true)

theorem Token.Spelled.head (spelled : token.Spelled text) (other : token.isNumber = false) :
    ∃ first rest, text = first :: rest ∧ continuesNumeral first = false := by
  cases spelled with
  | fixed known =>
    simp only [Token.fixed, List.mem_cons, List.not_mem_nil, or_false] at known
    rcases known with rfl | rfl | rfl | rfl | rfl | rfl | rfl | rfl | rfl <;> exact ⟨_, _, rfl, rfl⟩
  | number => cases other
  | text | unpaired => exact ⟨_, _, rfl, rfl⟩

theorem continuesNumeral_of_isSpace (blank : isSpace c) : continuesNumeral c = false := by
  simp only [isSpace, Bool.or_eq_true, beq_iff_eq] at blank
  rcases blank with ((rfl | rfl) | rfl) | rfl <;> rfl

theorem scans_blanks (blank : ∀ c ∈ text, isSpace c) : Scans .between text [] .between := by
  induction text with
  | nil => exact .refl _
  | cons c text ih =>
    obtain ⟨first, others⟩ := List.forall_mem_cons.mp blank
    have taken : advance .between c = ([], .between) := by
      simp [advance, start, first]
    exact .cons taken (ih others)

theorem Spelled.endsNumeral (spelled : Spelled tokens text)
    (other : ∀ token, tokens.head? = some token → token.isNumber = false)
    (ends : tokens = [] → EndsNumeral rest) : EndsNumeral (text ++ rest) := by
  have blankEnds {blanks more : List Char} (blank : ∀ c ∈ blanks, isSpace c)
      (later : EndsNumeral more) : EndsNumeral (blanks ++ more) := by
    cases blanks with
    | nil => exact later
    | cons c blanks =>
      intro first atFront
      obtain rfl : c = first := Option.some.inj atFront
      exact continuesNumeral_of_isSpace (blank c (by simp))
  cases spelled with
  | nil blank => exact blankEnds blank (ends rfl)
  | cons blank spelled =>
    obtain ⟨first, others, rfl, ended⟩ := spelled.head (other _ rfl)
    rw [List.append_assoc]
    refine blankEnds blank fun c atFront => ?_
    obtain rfl : first = c := Option.some.inj atFront
    exact ended

theorem scanFrom_of_spelled (spelled : Spelled tokens text) (apart : Apart tokens)
    (ends : ∀ n, tokens.getLast? = some (.number n) → EndsNumeral rest) :
    scanFrom .between (text ++ rest) = tokens ++ scanFrom .between rest := by
  induction spelled with
  | nil blank => exact scans_blanks blank rest
  | @cons token tokens blanks front text blank spelled later ih =>
    have apartLater : Apart tokens := apart.tail
    have endsLater : ∀ n, tokens.getLast? = some (.number n) → EndsNumeral rest := by
      intro n atEnd
      refine ends n ?_
      rw [List.getLast?_cons, atEnd]
      rfl
    rw [List.append_assoc, scans_blanks blank, List.nil_append, List.append_assoc]
    cases isNumber : token.isNumber with
    | false =>
      rw [spelled.scans isNumber, ih apartLater endsLater]
      rfl
    | true =>
      cases spelled with
      | @number n front spelled =>
        obtain ⟨mode, complete, scans⟩ := spelled.scans
        have ended : EndsNumeral (text ++ rest) := by
          refine later.endsNumeral (fun next atFront => ?_) (fun empty => ends n ?_)
          · have neighbours := List.isChain_cons.mp apart
            exact (neighbours.1 next atFront).resolve_left (by simp [Token.isNumber])
          · rw [empty]
            rfl
        rw [scans, List.nil_append, scanFrom_of_numeral complete ended, ih apartLater endsLater]
        rfl
      | fixed known =>
        simp only [Token.fixed, List.mem_cons, List.not_mem_nil, or_false] at known
        rcases known with rfl | rfl | rfl | rfl | rfl | rfl | rfl | rfl | rfl <;> cases isNumber
      | text | unpaired => cases isNumber

theorem scan_of_spelled {text : String} (spelled : Spelled tokens text.toList)
    (apart : Apart tokens) : scan text = tokens := by
  have nothing : EndsNumeral [] := fun _ absent => by cases absent
  have scanned := scanFrom_of_spelled spelled apart fun _ _ => nothing
  rwa [List.append_nil, show scanFrom .between [] = [] from rfl, List.append_nil] at scanned

/-! ## Tokens as they are written -/

theorem unescape?_of_escape? {letter : Char} (escapes : escape? c = some letter) :
    unescape? letter = some c := by
  unfold escape? at escapes
  repeat' split at escapes
  all_goals cases escapes
  all_goals subst_vars; rfl

theorem codeUnit_of_control (control : c.toNat < 0x20) :
    CodeUnit ['0', '0', hexDigit (c.toNat / 16), hexDigit (c.toNat % 16)] c.toNat := by
  have digit : ∀ n < 16, hexValue? (hexDigit n) = some n := by decide
  have zero : hexValue? '0' = some 0 := rfl
  have unit := CodeUnit.digits zero zero (digit (c.toNat / 16) (by omega))
    (digit (c.toNat % 16) (by omega))
  have whole : ((0 * 16 + 0) * 16 + c.toNat / 16) * 16 + c.toNat % 16 = c.toNat := by omega
  rwa [whole] at unit

theorem letters_written (value : List Char) : Letters (value.flatMap written) (some value) := by
  induction value with
  | nil => exact .nil
  | cons c value ih =>
    rw [List.flatMap_cons, written]
    cases escaped : escape? c with
    | some letter => exact .escape (unescape?_of_escape? escaped) ih
    | none =>
      dsimp only
      split
      · rename_i control
        have high : isHighSurrogate c.toNat = false := by
          simp [isHighSurrogate]
          omega
        have low : isLowSurrogate c.toNat = false := by
          simp [isLowSurrogate]
          omega
        have letters := Letters.unit (codeUnit_of_control control) high low ih
        rwa [Char.ofNat_toNat] at letters
      · rename_i printed
        refine .plain ?_ ?_ (Nat.le_of_not_lt printed) ih <;> rintro rfl <;> cases escaped

theorem digits_toDigits (n : Nat) : ∀ c ∈ Nat.toDigits 10 n, c.isDigit :=
  fun _ member => Nat.isDigit_of_mem_toDigits (by decide) (by decide) member

theorem toDigits_head {n : Nat} (positive : 0 < n) :
    ∃ first rest, Nat.toDigits 10 n = first :: rest ∧ first ≠ '0' := by
  induction n using Nat.strongRecOn with
  | ind n ih =>
    by_cases small : n < 10
    · have nonzero : ∀ n < 10, 0 < n → n.digitChar ≠ '0' := by decide
      exact ⟨n.digitChar, [], Nat.toDigits_of_lt_base small, nonzero n small positive⟩
    · obtain ⟨first, rest, digits, nonzero⟩ := ih (n / 10) (by omega) (by omega)
      refine ⟨first, rest ++ [(n % 10).digitChar], ?_, nonzero⟩
      rw [Nat.toDigits_of_base_le (by decide) (by omega), digits, List.cons_append]

theorem whole_toDigits (n : Nat) : Whole (Nat.toDigits 10 n) := by
  rcases Nat.eq_zero_or_pos n with rfl | positive
  · exact .zero
  · obtain ⟨first, rest, digits, nonzero⟩ := toDigits_head positive
    have all := digits_toDigits n
    rw [digits] at all ⊢
    obtain ⟨digit, others⟩ := List.forall_mem_cons.mp all
    exact .number nonzero digit others

theorem ofDigits_toDigits (n : Nat) : ofDigits (Nat.toDigits 10 n) = n := by
  have value : Nat.ofDigitChars 10 (Nat.toDigits 10 n) 0 = n := Nat.ofDigitChars_ten_toDigits
  rwa [Nat.ofDigitChars_eq_foldl] at value

theorem Numeral.quantity_ofInt {n : Int} (least : -(UInt64.size : Int) ≤ 2 * n)
    (most : n < UInt64.size) :
    (Numeral.ofInt n).quantity = .whole n := by
  by_cases negative : n < 0
  · have range : 2 * n.natAbs ≤ UInt64.size := by omega
    have value : -(n.natAbs : Int) = n := by omega
    have positive : 0 < n.natAbs := by omega
    simp only [Numeral.quantity, Numeral.ofInt, negative, ofDigits_toDigits, range, value, positive,
      decide_true, List.isEmpty_nil, Option.isNone_none, Bool.not_true, Bool.and_true,
      Bool.and_false, Bool.false_and, Bool.false_eq_true, if_false, if_true]
  · have range : n.natAbs ≤ word := by
      simp only [word]
      omega
    have value : (n.natAbs : Int) = n := by omega
    simp only [Numeral.quantity, Numeral.ofInt, negative, ofDigits_toDigits, range, value,
      decide_true, decide_false, List.isEmpty_nil, Option.isNone_none, Bool.not_false,
      Bool.and_true, if_true]

theorem Numeral.spelled_ofInt (n : Int) : (Numeral.ofInt n).Spelled (Numeral.ofInt n).text where
  whole := whole_toDigits n.natAbs
  parts := ⟨[], [], .none, .none, by simp [Numeral.ofInt, Numeral.text]⟩

inductive Token.Writable : Token → Prop
  | fixed {token : Token} (known : token ∈ Token.fixed) : Token.Writable token
  | integer (n : Int) : Token.Writable (.number (.ofInt n))
  | text (value : String) : Token.Writable (.text value)

theorem Token.Writable.spelled (writable : token.Writable) : token.Spelled token.chars := by
  cases writable with
  | fixed known => exact .fixed known
  | integer n => exact .number (Numeral.spelled_ofInt n)
  | text value =>
    have letters := Token.Spelled.text (letters_written value.toList)
    rwa [String.ofList_toList] at letters

theorem spelled_render (writable : ∀ token ∈ tokens, token.Writable) :
    Spelled tokens (render tokens).toList := by
  rw [render, String.toList_ofList]
  induction tokens with
  | nil => exact .nil (by simp)
  | cons token tokens ih =>
    obtain ⟨first, others⟩ := List.forall_mem_cons.mp writable
    have bare : ∀ c ∈ ([] : List Char), isSpace c := by simp
    exact .cons bare first.spelled (ih others)

end BuildWatch.Json
