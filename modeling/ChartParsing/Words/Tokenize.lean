import ChartParsing.Symbol
import ChartParsing.Words.BreakClass

/-!
# Splitting a text into words

A text is cut at word boundaries, and the segments that contain a letter or a number are its
tokens. Whether there is a boundary at a place is decided by `isBoundary` from the characters
before and behind it.

The rules are the default ones of Unicode for words, with pictographs taken more strictly. A
joiner binds the pictograph behind it to what is before, also where a mark there still waits
for a letter or a digit; and a pictograph that is bound is no letter any more, so a word ends
behind it even if another letter follows.

Main definition: `tokenize`. Main lemma: `flatten_segments`, the segments make up the text.
-/

set_option autoImplicit false

namespace ChartParsing

/-! ## Boundaries -/

/-- The characters from the first one on that is not skipped. -/
def skipIgnored (cs : List Char) : List Char := cs.dropWhile fun c => (breakClass c).isIgnored

/-- The class of the first character, if there is one. -/
def firstClass : List Char → BreakClass
  | [] => .other
  | c :: _ => breakClass c

/-- The class of the nearest character before a place that is not skipped, among the
characters before it with the nearest first. -/
def classBefore (before : List Char) : BreakClass :=
  match skipIgnored before with
  | [] => .other
  | c :: earlier =>
    if isPictographic c && firstClass earlier == .joiner then .boundPictograph else breakClass c

/-- The class of the nearest character behind a place that is not skipped; `joined` tells that
a joiner is right before the place. -/
def classBehind (joined : Bool) : (behind : List Char) → BreakClass
  | [] => .other
  | c :: rest =>
    if joined && isPictographic c then .boundPictograph
    else if (breakClass c).isIgnored then classBehind (breakClass c == .joiner) rest
    else breakClass c

/-- The mark `behind` a letter or digit may belong to its word, if the right thing follows. -/
def waits (before behind : BreakClass) : Bool :=
  (before.isLetter && behind.isBetweenLetters) ||
  (before == .hebrewLetter && behind == .doubleQuote) ||
  (before == .numeric && behind.isBetweenDigits)

/-- **No word ends between `before` and `behind`**, two neighbours that are not skipped;
`before2` stands before the one and `behind2` behind the other. -/
def joins (before2 before behind behind2 : BreakClass) : Bool :=
  -- letters, and what stands between two letters
  (before.isLetter && behind.isLetter) ||
  (before.isLetter && behind.isBetweenLetters && behind2.isLetter) ||
  (before2.isLetter && before.isBetweenLetters && behind.isLetter) ||
  -- quotes behind and between Hebrew letters
  (before == .hebrewLetter && behind == .singleQuote) ||
  (before == .hebrewLetter && behind == .doubleQuote && behind2 == .hebrewLetter) ||
  (before2 == .hebrewLetter && before == .doubleQuote && behind == .hebrewLetter) ||
  -- digits, also next to letters, and what stands between two digits
  (before == .numeric && behind == .numeric) ||
  (before.isLetter && behind == .numeric) ||
  (before == .numeric && behind.isLetter) ||
  (before2 == .numeric && before.isBetweenDigits && behind == .numeric) ||
  (before == .numeric && behind.isBetweenDigits && behind2 == .numeric) ||
  -- any mark that waits for what follows, and a pictograph that is bound to it
  (waits before behind && behind2 == .boundPictograph) ||
  -- Katakana, and connecting lines
  (before == .katakana && behind == .katakana) ||
  (before.isConnected && behind == .extendNumLet) ||
  (before == .extendNumLet && behind.isConnected)

/-- The number of regional indicators in front, skipping what belongs to them. -/
def indicatorRun (cs : List Char) : Nat :=
  ((cs.map breakClass).filter fun cls => !cls.isIgnored).takeWhile
    (fun cls => cls == .regionalIndicator) |>.length

/-- **A word may end between two characters**: `before` lists those before the place, the
nearest first, and `behind` those behind it. -/
def isBoundary (before behind : List Char) : Bool :=
  let a := firstClass before
  let b := firstClass behind
  if a == .carriageReturn && b == .lineFeed then false
  else if a.isLineEnd || b.isLineEnd then true
  else if a == .joiner && behind.head?.any isPictographic then false
  else if a == .space && b == .space then false
  else if b.isIgnored then false
  else
    let left := classBefore before
    let left2 := classBefore (skipIgnored before).tail
    let right2 := classBehind false behind.tail
    if joins left2 left b right2 then false
    else if left == .regionalIndicator && b == .regionalIndicator then
      indicatorRun before % 2 == 0
    else true

/-! ## Segments -/

/-- The segments of what is left of a text. `before` holds the characters that were read, and
`current` those of them that belong to the segment at hand, both the nearest first. -/
def segmentsFrom (before current : List Char) : List Char → List (List Char)
  | [] => if current.isEmpty then [] else [current.reverse]
  | c :: rest =>
    if !current.isEmpty && isBoundary before (c :: rest) then
      current.reverse :: segmentsFrom (c :: before) [c] rest
    else segmentsFrom (c :: before) (c :: current) rest

/-- The segments of a text between its word boundaries. -/
def segments (text : List Char) : List (List Char) := segmentsFrom [] [] text

theorem flatten_segmentsFrom (before current text : List Char) :
    (segmentsFrom before current text).flatten = current.reverse ++ text := by
  induction text generalizing before current with
  | nil => cases current <;> simp [segmentsFrom]
  | cons c rest ih =>
      unfold segmentsFrom
      split
      · simp [ih]
      · simp [ih]

/-- **No character is lost or moved**: the segments of a text make up the text. -/
theorem flatten_segments (text : List Char) : (segments text).flatten = text :=
  flatten_segmentsFrom [] [] text

/-- **The words of a text**: its segments that contain a letter or a number. -/
def tokenize (text : String) : List Symbol :=
  ((segments text.toList).filter fun segment => segment.any isWordCharacter).map String.ofList

end ChartParsing
