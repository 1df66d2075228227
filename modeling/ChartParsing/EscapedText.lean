/-!
# Escaped text

How a text is written between double quotes. Printable ASCII stays as it is, apart from
quotes and the backslash; tab and line ends have escapes of one letter, and every other
character is written by its number.

`escape` writes a text and `unescape?` reads one back.
-/

set_option autoImplicit false

namespace ChartParsing

/-! ## Writing -/

/-- How a character is written: hexadecimal numbers are in lower case, without leading zeros. -/
def escapeChar (c : Char) : List Char :=
  if c = '\t' then ['\\', 't']
  else if c = '\r' then ['\\', 'r']
  else if c = '\n' then ['\\', 'n']
  else if c = '\'' ∨ c = '"' ∨ c = '\\' then ['\\', c]
  else if 0x20 ≤ c.toNat ∧ c.toNat ≤ 0x7e then [c]
  else ['\\', 'u', '\x7b'] ++ Nat.toDigits 16 c.toNat ++ ['\x7d']

/-- **A text as it is written between double quotes.** -/
def escape (text : String) : String := String.ofList (text.toList.flatMap escapeChar)

/-! ## Reading -/

/-- Where a reader of escaped text stands. -/
inductive EscapeState where
  /-- Between two characters. -/
  | between
  /-- Behind a backslash. -/
  | backslash
  /-- Behind a backslash and a `u`. -/
  | numberOpening
  /-- Inside the number of a character, with the value of the digits so far. -/
  | number (value : Nat)

/-- The value of a hexadecimal digit in lower case. -/
def hexDigit? (c : Char) : Option Nat :=
  if '0' ≤ c ∧ c ≤ '9' then some (c.toNat - '0'.toNat)
  else if 'a' ≤ c ∧ c ≤ 'f' then some (c.toNat - 'a'.toNat + 10)
  else none

/-- Reads escaped text from a state on. -/
def unescapeFrom : EscapeState → List Char → Option (List Char)
  | .between, [] => some []
  | _, [] => none
  | .between, c :: rest =>
    if c = '\\' then unescapeFrom .backslash rest else (unescapeFrom .between rest).map (c :: ·)
  | .backslash, c :: rest =>
    if c = 't' then (unescapeFrom .between rest).map ('\t' :: ·)
    else if c = 'r' then (unescapeFrom .between rest).map ('\r' :: ·)
    else if c = 'n' then (unescapeFrom .between rest).map ('\n' :: ·)
    else if c = '\'' ∨ c = '"' ∨ c = '\\' then (unescapeFrom .between rest).map (c :: ·)
    else if c = 'u' then unescapeFrom .numberOpening rest
    else none
  | .numberOpening, c :: rest => if c = '\x7b' then unescapeFrom (.number 0) rest else none
  | .number value, c :: rest =>
    if c = '\x7d' then (unescapeFrom .between rest).map (Char.ofNat value :: ·)
    else
      match hexDigit? c with
      | some digit => unescapeFrom (.number (16 * value + digit)) rest
      | none => none

/-- **The text that was written in escaped form**, if it was. -/
def unescape? (text : String) : Option String :=
  (unescapeFrom .between text.toList).map String.ofList

end ChartParsing
