import BuildWatch.Json.Token
import BuildWatch.Text.Utf8

/-!
# From text to tokens

A JSON text is scanned one character at a time by a machine that keeps what it has seen of the
token at hand. `advance` takes one character and gives the tokens that it completes; `finish` says
what the end of the text completes. After a flaw nothing more is scanned. Bytes are scanned in the
same way, whether they are a text or not.

* `scanBytes_toUTF8`: the bytes of a text are scanned as that text.
-/

namespace BuildWatch.Json

/-- What the scanner is in the middle of. Lists of characters are in reverse. -/
inductive Mode where
  | between
  | word (rest : List Char) (token : Token)
  | minus
  | zero (negative : Bool)
  | whole (negative : Bool) (digits : List Char)
  | point (negative : Bool) (digits : List Char)
  | fraction (negative : Bool) (digits decimals : List Char)
  | exponent (negative : Bool) (digits decimals : List Char)
  | exponentSign (negative : Bool) (digits decimals : List Char) (minus : Bool)
  | exponentDigits (negative : Bool) (digits decimals : List Char) (minus : Bool)
      (power : List Char)
  | text (seen : List Char) (paired : Bool)
  | escape (seen : List Char) (paired : Bool)
  | unit (seen : List Char) (paired : Bool) (first : Option Nat) (digits : List Char) (bytes : Nat)
  | half (seen : List Char) (paired : Bool) (first : Nat)
  | halfEscape (seen : List Char) (paired : Bool) (first : Nat)
  | stopped
  deriving DecidableEq, Repr

/-! ## Characters -/

def isSpace (c : Char) : Bool :=
  c == ' ' || c == '\n' || c == '\t' || c == '\r'

def unescape? (c : Char) : Option Char :=
  if c = '"' then some '"'
  else if c = '\\' then some '\\'
  else if c = '/' then some '/'
  else if c = 'b' then some '\x08'
  else if c = 'f' then some '\x0c'
  else if c = 'n' then some '\n'
  else if c = 'r' then some '\r'
  else if c = 't' then some '\t'
  else none

def hexValue? (c : Char) : Option Nat :=
  if '0' ≤ c ∧ c ≤ '9' then some (c.toNat - '0'.toNat)
  else if 'a' ≤ c ∧ c ≤ 'f' then some (c.toNat - 'a'.toNat + 10)
  else if 'A' ≤ c ∧ c ≤ 'F' then some (c.toNat - 'A'.toNat + 10)
  else none

def codeUnit? (digits : List Char) : Option Nat :=
  match digits.mapM hexValue? with
  | some [a, b, c, d] => some (((a * 16 + b) * 16 + c) * 16 + d)
  | _ => none

def isHighSurrogate (n : Nat) : Bool :=
  0xD800 ≤ n && n ≤ 0xDBFF

def isLowSurrogate (n : Nat) : Bool :=
  0xDC00 ≤ n && n ≤ 0xDFFF

def ofSurrogates (high low : Nat) : Char :=
  Char.ofNat (0x10000 + (high - 0xD800) * 0x400 + (low - 0xDC00))

/-! ## Steps -/

def flawIn (paired : Bool) (flaw : Flaw) : Token :=
  .badText (if paired then flaw else .malformed) flaw

def stringToken (seen : List Char) (paired : Bool) : Token :=
  if paired then .text (String.ofList seen.reverse) else .unpaired

def start (c : Char) : List Token × Mode :=
  if isSpace c then ([], .between)
  else if c = '[' then ([.openList], .between)
  else if c = ']' then ([.closeList], .between)
  else if c = '{' then ([.openObject], .between)
  else if c = '}' then ([.closeObject], .between)
  else if c = ',' then ([.comma], .between)
  else if c = ':' then ([.colon], .between)
  else if c = '"' then ([], .text [] true)
  else if c = 'n' then ([], .word ['u', 'l', 'l'] .null)
  else if c = 't' then ([], .word ['r', 'u', 'e'] (.flag true))
  else if c = 'f' then ([], .word ['a', 'l', 's', 'e'] (.flag false))
  else if c = '-' then ([], .minus)
  else if c = '0' then ([], .zero false)
  else if c.isDigit then ([], .whole false [c])
  else ([.badValue .malformed .malformed], .stopped)

def endNumeral (numeral : Numeral) (c : Char) : List Token × Mode :=
  let (tokens, mode) := start c
  (.number numeral :: tokens, mode)

def badNumeral : List Token × Mode :=
  ([.badValue .malformed .malformed], .stopped)

def endUnit (seen : List Char) (paired : Bool) (first : Option Nat) (digits : List Char) :
    List Token × Mode :=
  match codeUnit? digits.reverse, first with
  | none, _ => ([flawIn paired .malformed], .stopped)
  | some unit, none =>
    if isHighSurrogate unit then ([], .half seen paired unit)
    else if isLowSurrogate unit then ([], .text seen false)
    else ([], .text (Char.ofNat unit :: seen) paired)
  | some unit, some high =>
    if isLowSurrogate unit then ([], .text (ofSurrogates high unit :: seen) paired)
    else ([], .text seen false)

def inText (seen : List Char) (paired : Bool) (c : Char) : List Token × Mode :=
  if c = '"' then ([stringToken seen paired], .between)
  else if c = '\\' then ([], .escape seen paired)
  else if c.toNat < 0x20 then ([flawIn paired .malformed], .stopped)
  else ([], .text (c :: seen) paired)

def advance : Mode → Char → List Token × Mode
  | .between, c => start c
  | .word [] token, c =>
    let (tokens, mode) := start c
    (token :: tokens, mode)
  | .word (letter :: rest) token, c =>
    if c = letter then if rest.isEmpty then ([token], .between) else ([], .word rest token)
    else ([.badValue .malformed .malformed], .stopped)
  | .minus, c =>
    if c = '0' then ([], .zero true)
    else if c.isDigit then ([], .whole true [c])
    else badNumeral
  | .zero negative, c =>
    if c.isDigit then badNumeral
    else if c = '.' then ([], .point negative ['0'])
    else if c = 'e' ∨ c = 'E' then ([], .exponent negative ['0'] [])
    else endNumeral ⟨negative, ['0'], [], none⟩ c
  | .whole negative digits, c =>
    if c.isDigit then ([], .whole negative (c :: digits))
    else if c = '.' then ([], .point negative digits)
    else if c = 'e' ∨ c = 'E' then ([], .exponent negative digits [])
    else endNumeral ⟨negative, digits.reverse, [], none⟩ c
  | .point negative digits, c =>
    if c.isDigit then ([], .fraction negative digits [c]) else badNumeral
  | .fraction negative digits decimals, c =>
    if c.isDigit then ([], .fraction negative digits (c :: decimals))
    else if c = 'e' ∨ c = 'E' then ([], .exponent negative digits decimals)
    else endNumeral ⟨negative, digits.reverse, decimals.reverse, none⟩ c
  | .exponent negative digits decimals, c =>
    if c = '+' then ([], .exponentSign negative digits decimals false)
    else if c = '-' then ([], .exponentSign negative digits decimals true)
    else if c.isDigit then ([], .exponentDigits negative digits decimals false [c])
    else badNumeral
  | .exponentSign negative digits decimals minus, c =>
    if c.isDigit then ([], .exponentDigits negative digits decimals minus [c]) else badNumeral
  | .exponentDigits negative digits decimals minus power, c =>
    if c.isDigit then ([], .exponentDigits negative digits decimals minus (c :: power))
    else endNumeral ⟨negative, digits.reverse, decimals.reverse, some (minus, power.reverse)⟩ c
  | .text seen paired, c => inText seen paired c
  | .escape seen paired, c =>
    if c = 'u' then ([], .unit seen paired none [] 0)
    else
      match unescape? c with
      | some plain => ([], .text (plain :: seen) paired)
      | none => ([flawIn paired .malformed], .stopped)
  | .unit seen paired first digits bytes, c =>
    if bytes + c.utf8Size < 4 then ([], .unit seen paired first (c :: digits) (bytes + c.utf8Size))
    else endUnit seen paired first (c :: digits)
  | .half seen paired first, c =>
    if c = '\\' then ([], .halfEscape seen paired first) else inText seen false c
  | .halfEscape seen paired first, c =>
    if c = 'u' then ([], .unit seen paired (some first) [] 0)
    else if (unescape? c).isSome then ([], .text seen false)
    else ([flawIn false .malformed], .stopped)
  | .stopped, _ => ([], .stopped)

def finish : Mode → List Token
  | .between => []
  | .word [] token => [token]
  | .word (_ :: _) _ => [.badValue .truncated .truncated]
  | .minus => [.badValue .truncated .malformed]
  | .zero negative => [.number ⟨negative, ['0'], [], none⟩]
  | .whole negative digits => [.number ⟨negative, digits.reverse, [], none⟩]
  | .point _ _ => [.badValue .truncated .malformed]
  | .fraction negative digits decimals =>
    [.number ⟨negative, digits.reverse, decimals.reverse, none⟩]
  | .exponent _ _ _ => [.badValue .truncated .malformed]
  | .exponentSign _ _ _ _ => [.badValue .truncated .malformed]
  | .exponentDigits negative digits decimals minus power =>
    [.number ⟨negative, digits.reverse, decimals.reverse, some (minus, power.reverse)⟩]
  | .text _ paired => [flawIn paired .truncated]
  | .escape _ paired => [flawIn paired .truncated]
  | .unit _ paired _ _ _ => [flawIn paired .truncated]
  | .half _ paired _ => [flawIn paired .truncated]
  | .halfEscape _ paired _ => [flawIn paired .truncated]
  | .stopped => []

def scanFrom : Mode → List Char → List Token
  | mode, [] => finish mode
  | mode, c :: rest => (advance mode c).1 ++ scanFrom (advance mode c).2 rest

def scan (text : String) : List Token :=
  scanFrom .between text.toList

/-! ## Bytes -/

def advanceStray : Mode → List Token × Mode
  | .text seen _ | .half seen _ _ => ([], .text seen false)
  | .unit seen paired first digits bytes =>
    if bytes + 1 < 4 then ([], .unit seen paired first ('\uFFFD' :: digits) (bytes + 1))
    else endUnit seen paired first ('\uFFFD' :: digits)
  | mode => advance mode '\uFFFD'

def scanBytesFrom : Mode → List (Option Char) → List Token
  | mode, [] => finish mode
  | mode, some c :: rest => (advance mode c).1 ++ scanBytesFrom (advance mode c).2 rest
  | mode, none :: rest => (advanceStray mode).1 ++ scanBytesFrom (advanceStray mode).2 rest

def scanBytes (bytes : ByteArray) : List Token :=
  scanBytesFrom .between (Text.characters bytes)

theorem scanBytesFrom_some (mode : Mode) (text : List Char) :
    scanBytesFrom mode (text.map some) = scanFrom mode text := by
  induction text generalizing mode with
  | nil => rfl
  | cons c rest ih => rw [List.map_cons, scanBytesFrom, scanFrom, ih]

theorem scanBytes_toUTF8 (text : String) : scanBytes text.toUTF8 = scan text := by
  rw [scanBytes, Text.characters_toUTF8, scanBytesFrom_some, scan]

end BuildWatch.Json
