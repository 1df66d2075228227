import ChartParsing.Words.BreakRanges
import ChartParsing.Words.WordRanges

/-!
# Break classes of characters

Where a word ends depends only on the classes of the characters around that place, and on
which of them are pictographs. ASCII characters are classified by cases, all others by the
tables of ranges.

Main definition: `breakClass`.
-/

set_option autoImplicit false

namespace ChartParsing

/-- **How a character behaves at the ends of words.** -/
inductive BreakClass where
  | other
  | carriageReturn
  | lineFeed
  | newline
  | extend
  | format
  | joiner
  | katakana
  | hebrewLetter
  | letter
  | singleQuote
  | doubleQuote
  | midNumLet
  | midLetter
  | midNum
  | numeric
  | extendNumLet
  | regionalIndicator
  | space
  /-- A pictograph right behind a joiner, whatever class the character has elsewhere. -/
  | boundPictograph
deriving DecidableEq

/-- The code point of a character lies in one of the ranges. -/
def inRanges (ranges : List (Nat × Nat)) (c : Char) : Bool :=
  ranges.any fun (low, high) => low ≤ c.toNat && c.toNat ≤ high

def isAsciiLetter (c : Char) : Bool := ('A' ≤ c && c ≤ 'Z') || ('a' ≤ c && c ≤ 'z')

def isAsciiDigit (c : Char) : Bool := '0' ≤ c && c ≤ '9'

def asciiBreakClass (c : Char) : BreakClass :=
  if isAsciiLetter c then .letter
  else if isAsciiDigit c then .numeric
  else if c = ' ' then .space
  else if c = '\r' then .carriageReturn
  else if c = '\n' then .lineFeed
  else if c = '\x0b' ∨ c = '\x0c' then .newline
  else if c = '\'' then .singleQuote
  else if c = '"' then .doubleQuote
  else if c = '.' then .midNumLet
  else if c = ':' then .midLetter
  else if c = ',' ∨ c = ';' then .midNum
  else if c = '_' then .extendNumLet
  else .other

/-- The ranges of each class above ASCII. The classes have no character in common. -/
def classRanges : List (BreakClass × List (Nat × Nat)) :=
  [(.letter, letterRanges),
   (.extend, extendRanges),
   (.numeric, numericRanges),
   (.katakana, katakanaRanges),
   (.hebrewLetter, hebrewLetterRanges),
   (.format, formatRanges),
   (.newline, [(0x85, 0x85), (0x2028, 0x2029)]),
   (.joiner, [(0x200d, 0x200d)]),
   (.midNumLet, [(0x2018, 0x2019), (0x2024, 0x2024), (0xfe52, 0xfe52), (0xff07, 0xff07),
     (0xff0e, 0xff0e)]),
   (.midLetter, [(0xb7, 0xb7), (0x387, 0x387), (0x55f, 0x55f), (0x5f4, 0x5f4), (0x2027, 0x2027),
     (0xfe13, 0xfe13), (0xfe55, 0xfe55), (0xff1a, 0xff1a)]),
   (.midNum, [(0x37e, 0x37e), (0x589, 0x589), (0x60c, 0x60d), (0x66c, 0x66c), (0x7f8, 0x7f8),
     (0x2044, 0x2044), (0xfe50, 0xfe50), (0xfe54, 0xfe54), (0xff0c, 0xff0c), (0xff1b, 0xff1b)]),
   (.extendNumLet, [(0x202f, 0x202f), (0x203f, 0x2040), (0x2054, 0x2054), (0xfe33, 0xfe34),
     (0xfe4d, 0xfe4f), (0xff3f, 0xff3f)]),
   (.regionalIndicator, [(0x1f1e6, 0x1f1ff)]),
   (.space, [(0x1680, 0x1680), (0x2000, 0x2006), (0x2008, 0x200a), (0x205f, 0x205f),
     (0x3000, 0x3000)])]

/-- **The break class of a character.** -/
def breakClass (c : Char) : BreakClass :=
  if c.toNat < 0x80 then asciiBreakClass c
  else
    match classRanges.find? fun (_, ranges) => inRanges ranges c with
    | some (cls, _) => cls
    | none => .other

/-- The character makes a word of the segment it stands in: it is alphabetic or a number. -/
def isWordCharacter (c : Char) : Bool :=
  if c.toNat < 0x80 then isAsciiLetter c || isAsciiDigit c else inRanges alphanumericRanges c

def isPictographic (c : Char) : Bool := inRanges pictographicRanges c

namespace BreakClass

/-- Ends a line. -/
def isLineEnd : BreakClass → Bool
  | carriageReturn | lineFeed | newline => true
  | _ => false

/-- Belongs to the character before it, and is skipped by the rules on what surrounds it. -/
def isIgnored : BreakClass → Bool
  | extend | format | joiner => true
  | _ => false

/-- A letter of a script that separates words by spaces. -/
def isLetter : BreakClass → Bool
  | letter | hebrewLetter => true
  | _ => false

/-- Joins two letters if it stands between them. -/
def isBetweenLetters : BreakClass → Bool
  | midLetter | midNumLet | singleQuote => true
  | _ => false

/-- Joins two digits if it stands between them. -/
def isBetweenDigits : BreakClass → Bool
  | midNum | midNumLet | singleQuote => true
  | _ => false

/-- Joins with a connecting line, on either side. -/
def isConnected : BreakClass → Bool
  | letter | hebrewLetter | numeric | katakana | extendNumLet => true
  | _ => false

end BreakClass

end ChartParsing
