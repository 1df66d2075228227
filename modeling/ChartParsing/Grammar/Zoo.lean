import ChartParsing.Grammar

/-!
# The zoo grammar

A small grammar of English sentences about a zoo, and sentences of any length that it
accepts: a clause followed by prepositional phrases of three words each.
-/

set_option autoImplicit false

namespace ChartParsing.Zoo

/-! ## The grammar -/

/-- How sentences are put together. -/
def phraseRules : List Rule :=
  [.of "S" "NP" ["VP"],
   .of "VP" "Verb" [],
   .of "VP" "Verb" ["NP"],
   .of "VP" "VP" ["PP"],
   .of "NP" "Det" ["Noun"],
   .of "NP" "NP" ["PP"],
   .of "PP" "Prep" ["NP"]]

/-- The words of each category. -/
def lexicon : List (Symbol × List Symbol) :=
  [("Verb", ["sees"]),
   ("Det", ["the", "a"]),
   ("Prep", ["under", "with", "in"]),
   ("Noun", ["zebra", "lion", "tree", "park", "telescope"])]

/-- **The grammar of the zoo**: seven phrase rules and eleven words. -/
def grammar : Grammar :=
  .ofRules (phraseRules ++ lexicon.flatMap fun (category, words) =>
    words.map fun word => Rule.of category word [])

/-! ## Sentences -/

/-- Why there is no sentence. -/
inductive SentenceError where
  /-- The number of words to append does not fit into 64 bits. -/
  | lengthOverflow
  /-- There is no room for that many words. -/
  | capacityOverflow
deriving DecidableEq

def SentenceError.message : SentenceError → String
  | .lengthOverflow => "attempt to multiply with overflow"
  | .capacityOverflow => "capacity overflow"

/-- The clause that every sentence starts with. -/
def clause : List Symbol := ["the", "lion", "sees", "a", "zebra"]

/-- Three prepositional phrases, used over and over. -/
def phrases : List Symbol :=
  ["under", "a", "tree", "with", "a", "telescope", "in", "the", "park"]

/-- The word number `i` of the phrases when they are repeated without end. -/
def phraseWord (i : Nat) : Symbol := phrases.get ⟨i % phrases.length, Nat.mod_lt i (by decide)⟩

/-- The most symbols that a list has room for: eight bytes each, and no more bytes than a signed word
counts. -/
def maxRoom : Nat := (UInt64.size / 2 - 1) / 8

/-- The room that is made when the first word is listed: for this word and the words of the phrases,
which can be counted ahead, and never for less than four. -/
def firstRoom (n : Nat) : Nat := max 4 (n * 3 + 1)

/-- The room for the whole sentence. The clause has more words than the first, which were not counted
ahead; when the list is full it grows, once, to twice its room. -/
def room (n : Nat) : Nat := 2 * firstRoom n

/-- **The sentence with `n` prepositional phrases.** The count of their words, `3 * n`, has to
fit into 64 bits, and there has to be room for all words. -/
def sentence (n : Nat) : Except SentenceError (List Symbol) :=
  if UInt64.size ≤ n * 3 then .error .lengthOverflow
  else if maxRoom < room n then .error .capacityOverflow
  else .ok (clause ++ (List.range (n * 3)).map phraseWord)

end ChartParsing.Zoo
