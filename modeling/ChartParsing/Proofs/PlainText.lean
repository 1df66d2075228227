import ChartParsing.Proofs.WordBoundaries

/-!
# The words of plain text

A plain text has no characters but ASCII letters, digits and whitespace. There the rules on word
boundaries come to little: a letter or digit is joined to the next one, and nothing else is joined to
a letter or digit. So the words are what is left between the whitespace (`runs`), and words that are
joined by spaces are read back.

Main theorem: `tokenize_plain`.
-/

set_option autoImplicit false

namespace ChartParsing

/-! ## Plain characters -/

/-- ASCII whitespace: the space, the tab, and the characters that end a line or a page. -/
def blanks : List Char := [' ', '\t', '\n', '\x0b', '\x0c', '\r']

def isBlank (c : Char) : Bool := blanks.contains c

def isAlphanumeric (c : Char) : Bool := isAsciiLetter c || isAsciiDigit c

def isPlain (c : Char) : Bool := isAlphanumeric c || isBlank c

/-- A letter or digit stands inside words, and so do the marks that may join two of them. -/
def BreakClass.isInWords : BreakClass → Bool
  | letter | hebrewLetter | numeric | katakana | extendNumLet => true
  | singleQuote | doubleQuote | midNumLet | midLetter | midNum => true
  | _ => false

/-- What is found of each blank holds of all characters that are blank. -/
theorem of_isBlank {p : Char → Prop} [DecidablePred p] (h : blanks.all (fun c => p c) = true)
    {c : Char} (hc : isBlank c = true) : p c :=
  of_decide_eq_true (List.all_eq_true.mp h c (List.contains_iff_mem.mp hc))

theorem toNat_lt_of_isAlphanumeric {c : Char} (h : isAlphanumeric c = true) : c.toNat < 0x80 := by
  simp only [isAlphanumeric, isAsciiLetter, isAsciiDigit, Bool.or_eq_true, Bool.and_eq_true,
    decide_eq_true_eq, Char.le_def, UInt32.le_iff_toNat_le] at h
  show c.val.toNat < 0x80
  rcases h with (⟨-, h⟩ | ⟨-, h⟩) | ⟨-, h⟩
  · exact Nat.lt_of_le_of_lt h (by decide)
  · exact Nat.lt_of_le_of_lt h (by decide)
  · exact Nat.lt_of_le_of_lt h (by decide)

theorem toNat_lt_of_isBlank {c : Char} (h : isBlank c = true) : c.toNat < 0x80 :=
  of_isBlank (p := fun c => c.toNat < 0x80) (by decide) h

theorem isAlphanumeric_of_isBlank {c : Char} (h : isBlank c = true) : isAlphanumeric c = false :=
  of_isBlank (p := fun c => isAlphanumeric c = false) (by decide) h

theorem isBlank_of_isAlphanumeric {c : Char} (h : isAlphanumeric c = true) : isBlank c = false :=
  Bool.eq_false_iff.mpr fun hblank => Bool.eq_false_iff.mp (isAlphanumeric_of_isBlank hblank) h

theorem isBlank_iff {c : Char} (h : isPlain c = true) : isBlank c = true ↔ isAlphanumeric c = false := by
  refine ⟨isAlphanumeric_of_isBlank, fun hc => ?_⟩
  simpa [isPlain, hc] using h

theorem isWordCharacter_eq {c : Char} (h : isPlain c = true) :
    isWordCharacter c = isAlphanumeric c := by
  have hascii : c.toNat < 0x80 := by
    rcases Bool.or_eq_true_iff.mp h with h | h
    · exact toNat_lt_of_isAlphanumeric h
    · exact toNat_lt_of_isBlank h
  rw [isWordCharacter, if_pos hascii]
  rfl

/-- A letter or digit has the class of its kind. -/
theorem breakClass_of_isAlphanumeric {c : Char} (h : isAlphanumeric c = true) :
    breakClass c = .letter ∨ breakClass c = .numeric := by
  rw [breakClass, if_pos (toNat_lt_of_isAlphanumeric h), asciiBreakClass]
  by_cases hletter : isAsciiLetter c = true
  · exact Or.inl (if_pos hletter)
  · have hdigit : isAsciiDigit c = true := by simpa [isAlphanumeric, hletter] using h
    rw [if_neg hletter, if_pos hdigit]
    exact Or.inr rfl

/-- Whitespace has one of five classes. -/
theorem breakClass_of_isBlank {c : Char} (h : isBlank c = true) :
    breakClass c ∈ [BreakClass.space, .other, .lineFeed, .newline, .carriageReturn] :=
  of_isBlank (p := fun c => breakClass c ∈ [.space, .other, .lineFeed, .newline, .carriageReturn])
    (by decide) h

/-- The class of a plain character is none of those with rules on what stands further away. -/
theorem breakClass_of_isPlain {c : Char} (h : isPlain c = true) :
    (breakClass c).isIgnored = false ∧ breakClass c ≠ .joiner ∧ breakClass c ≠ .regionalIndicator := by
  have hall : ∀ cls ∈ [BreakClass.space, .other, .lineFeed, .newline, .carriageReturn],
      cls.isIgnored = false ∧ cls ≠ .joiner ∧ cls ≠ .regionalIndicator := by decide
  rcases Bool.or_eq_true_iff.mp h with h | h
  · rcases breakClass_of_isAlphanumeric h with hc | hc <;> rw [hc] <;> decide
  · exact hall _ (breakClass_of_isBlank h)

/-- Of the plain characters, letters and digits are those that stand inside words. -/
theorem isInWords_breakClass {c : Char} (h : isPlain c = true) :
    (breakClass c).isInWords = isAlphanumeric c := by
  have hall : ∀ cls ∈ [BreakClass.space, .other, .lineFeed, .newline, .carriageReturn],
      cls.isInWords = false := by decide
  cases hc : isAlphanumeric c with
  | true => rcases breakClass_of_isAlphanumeric hc with hclass | hclass <;> rw [hclass] <;> rfl
  | false => exact hall _ (breakClass_of_isBlank ((isBlank_iff h).mpr hc))

/-! ## Boundaries of plain text -/

namespace BreakClass

/-- Only what stands inside words is joined by its class. -/
theorem Join.isInWords {left2 left right right2 : BreakClass} (h : Join left2 left right right2) :
    left.isInWords = true ∧ right.isInWords = true := by
  have letter {cls : BreakClass} : cls.isLetter = true → cls.isInWords = true := by
    cases cls <;> decide
  have betweenLetters {cls : BreakClass} : cls.isBetweenLetters = true → cls.isInWords = true := by
    cases cls <;> decide
  have betweenDigits {cls : BreakClass} : cls.isBetweenDigits = true → cls.isInWords = true := by
    cases cls <;> decide
  have connected {cls : BreakClass} : cls.isConnected = true → cls.isInWords = true := by
    cases cls <;> decide
  cases h with
  | letters hleft hright => exact ⟨letter hleft, letter hright⟩
  | letterMark hleft hmark => exact ⟨letter hleft, betweenLetters hmark⟩
  | markLetter _ hmark hright => exact ⟨betweenLetters hmark, letter hright⟩
  | letterDigit hleft hright => exact ⟨letter hleft, hright ▸ rfl⟩
  | digitLetter hleft hright => exact ⟨hleft ▸ rfl, letter hright⟩
  | markDigit _ hmark hright => exact ⟨betweenDigits hmark, hright ▸ rfl⟩
  | digitMark hleft hmark => exact ⟨hleft ▸ rfl, betweenDigits hmark⟩
  | lineBehind hleft hright => exact ⟨connected hleft, hright ▸ rfl⟩
  | lineBefore hleft hright => exact ⟨hleft ▸ rfl, connected hright⟩
  | hebrewQuote hleft hright => exact ⟨hleft ▸ rfl, hright ▸ rfl⟩
  | hebrewQuotes hleft hmark => exact ⟨hleft ▸ rfl, hmark ▸ rfl⟩
  | quotesHebrew _ hmark hright => exact ⟨hmark ▸ rfl, hright ▸ rfl⟩
  | digits hleft hright => exact ⟨hleft ▸ rfl, hright ▸ rfl⟩
  | katakana hleft hright => exact ⟨hleft ▸ rfl, hright ▸ rfl⟩

end BreakClass

theorem nearestClass_of_isPlain {c : Char} (h : isPlain c = true) (cs : List Char) :
    nearestClass (c :: cs) = breakClass c := by
  rw [nearestClass_cons, (breakClass_of_isPlain h).1]
  rfl

/-- **Letters and digits are joined.** -/
theorem joined_of_isAlphanumeric {b c : Char} (hb : isAlphanumeric b = true)
    (hc : isAlphanumeric c = true) (before behind : List Char) :
    Joined (b :: before) (c :: behind) := by
  have hnearest : nearestClass (b :: before) = breakClass b :=
    nearestClass_of_isPlain (by simp [isPlain, hb]) before
  have hjoin : BreakClass.Join (nearestClass (skipIgnored (b :: before)).tail) (breakClass b)
      (breakClass c) (nearestClass behind) := by
    rcases breakClass_of_isAlphanumeric hb with hb | hb <;>
      rcases breakClass_of_isAlphanumeric hc with hc | hc <;> rw [hb, hc]
    · exact .letters rfl rfl
    · exact .letterDigit rfl rfl
    · exact .digitLetter rfl rfl
    · exact .digits rfl rfl
  have hline {d : Char} (hd : isAlphanumeric d = true) : (breakClass d).isLineEnd = false := by
    rcases breakClass_of_isAlphanumeric hd with hd | hd <;> rw [hd] <;> rfl
  refine .inLine (hline hb) (hline hc) (.classes ?_)
  rw [hnearest]
  exact hjoin

/-- **Nothing else is joined to a letter or digit.** -/
theorem not_joined_of_ne {b c : Char} (hb : isPlain b = true) (hc : isPlain c = true)
    (h : isAlphanumeric b ≠ isAlphanumeric c) (before behind : List Char) :
    ¬ Joined (b :: before) (c :: behind) := by
  have hne : (breakClass b).isInWords ≠ (breakClass c).isInWords := by
    rwa [isInWords_breakClass hb, isInWords_breakClass hc]
  obtain ⟨-, hbjoiner, -⟩ := breakClass_of_isPlain hb
  obtain ⟨hcignored, -, hcindicator⟩ := breakClass_of_isPlain hc
  -- on the classes that may be joined the two sides agree whether they stand inside words
  intro hjoined
  cases hjoined with
  | lineEnd hbefore hbehind =>
      rw [firstClass] at hbefore hbehind
      simp [hbefore, hbehind, BreakClass.isInWords] at hne
  | inLine _ _ hkept =>
      cases hkept with
      | pictograph hbefore => exact hbjoiner hbefore
      | spaces hbefore hbehind =>
          rw [firstClass] at hbefore hbehind
          exact hne (by rw [hbefore, hbehind])
      | ignored hbehind => exact Bool.false_ne_true (hcignored.symm.trans hbehind)
      | classes hjoin =>
          rw [nearestClass_of_isPlain hb] at hjoin
          obtain ⟨hleft, hright⟩ := hjoin.isInWords
          exact hne (hleft.trans hright.symm)
      | indicators _ hbehind => exact hcindicator hbehind

theorem unbound_of_isPlain {text : List Char} (h : ∀ c ∈ text, isPlain c = true) : Unbound text := by
  refine List.isChain_iff_forall_rel_of_append_cons_cons.mpr fun c d first second htext hjoiner => ?_
  have hc : isPlain c = true := h c (by simp [htext])
  exact absurd hjoiner (breakClass_of_isPlain hc).2.1

/-! ## Runs -/

/-- **The runs of characters between the whitespace.** -/
def runs (text : List Char) : List (List Char) :=
  (text.splitOnP isBlank).filter fun run => !run.isEmpty

theorem runs_append_blank {c : Char} (hc : isBlank c = true) (text rest : List Char) :
    runs (text ++ c :: rest) = runs text ++ runs rest := by
  rw [runs, List.splitOnP_append_cons text rest hc, List.filter_append]
  rfl

theorem runs_cons_blank {c : Char} (hc : isBlank c = true) (rest : List Char) :
    runs (c :: rest) = runs rest :=
  runs_append_blank hc [] rest

theorem runs_append_of_blank {gap : List Char} (h : ∀ c ∈ gap, isBlank c = true) (rest : List Char) :
    runs (gap ++ rest) = runs rest := by
  induction gap with
  | nil => rfl
  | cons c gap ih =>
      obtain ⟨hc, hgap⟩ := List.forall_mem_cons.mp h
      rw [List.cons_append, runs_cons_blank hc, ih hgap]

theorem runs_of_not_blank {run : List Char} (hne : run ≠ []) (h : ∀ c ∈ run, isBlank c = false) :
    runs run = [run] := by
  rw [runs, List.splitOnP_eq_singleton h]
  simp [hne]

/-- A run ends where the text does or whitespace comes. -/
theorem runs_append_of_not_blank {run rest : List Char} (hne : run ≠ [])
    (h : ∀ c ∈ run, isBlank c = false) (hrest : ∀ d ∈ rest.head?, isBlank d = true) :
    runs (run ++ rest) = run :: runs rest := by
  cases rest with
  | nil =>
      rw [List.append_nil, runs_of_not_blank hne h]
      rfl
  | cons d rest =>
      have hd : isBlank d = true := hrest d rfl
      rw [runs_append_blank hd, runs_of_not_blank hne h, runs_cons_blank hd]
      rfl

/-- A piece of plain text without a boundary inside is a run of letters and digits, or of
whitespace. -/
theorem alphanumeric_or_blank_of_inside {before piece rest : List Char}
    (hplain : ∀ c ∈ piece, isPlain c = true)
    (inside : ∀ first second, piece = first ++ second → first ≠ [] → second ≠ [] →
      ¬ DefaultBoundary (first.reverse ++ before) (second ++ rest)) :
    (∀ c ∈ piece, isAlphanumeric c = true) ∨ ∀ c ∈ piece, isBlank c = true := by
  have hneighbours : piece.IsChain fun b c => isAlphanumeric b = isAlphanumeric c := by
    refine List.isChain_iff_forall_rel_of_append_cons_cons.mpr fun b c first second hpiece => ?_
    by_contra hne
    have hb : isPlain b = true := hplain b (by simp [hpiece])
    have hc : isPlain c = true := hplain c (by simp [hpiece])
    refine inside (first ++ [b]) (c :: second) (by simp [hpiece]) (by simp) (by simp) ?_
    rw [List.reverse_append]
    exact not_joined_of_ne hb hc hne _ _
  have : Trans (fun b c => isAlphanumeric b = isAlphanumeric c)
      (fun b c => isAlphanumeric b = isAlphanumeric c)
      (fun b c => isAlphanumeric b = isAlphanumeric c) := ⟨Eq.trans⟩
  cases piece with
  | nil => exact Or.inl fun c hc => absurd hc List.not_mem_nil
  | cons c cs =>
      have hfirst : ∀ d ∈ c :: cs, isAlphanumeric d = isAlphanumeric c := by
        intro d hd
        rcases List.mem_cons.mp hd with rfl | hd
        · rfl
        · exact ((List.pairwise_cons.mp hneighbours.pairwise).1 d hd).symm
      cases hc : isAlphanumeric c with
      | true => exact Or.inl fun d hd => (hfirst d hd).trans hc
      | false => exact Or.inr fun d hd => (isBlank_iff (hplain d hd)).mpr ((hfirst d hd).trans hc)

/-- Behind a piece of letters and digits that ends at a boundary there is whitespace, or nothing. -/
theorem isBlank_head?_of_behind {before piece rest : List Char} (hne : piece ≠ [])
    (hpiece : ∀ c ∈ piece, isAlphanumeric c = true) (hrest : ∀ c ∈ rest, isPlain c = true)
    (behind : rest ≠ [] → DefaultBoundary (piece.reverse ++ before) rest) :
    ∀ d ∈ rest.head?, isBlank d = true := by
  intro d hd
  obtain ⟨more, rfl⟩ := List.head?_eq_some_iff.mp hd
  obtain ⟨first, b, rfl⟩ := (List.eq_nil_or_concat' piece).resolve_left hne
  rw [isBlank_iff (hrest d List.mem_cons_self), ← Bool.not_eq_true]
  intro hd
  refine behind (List.cons_ne_nil d more) ?_
  rw [List.reverse_concat]
  exact joined_of_isAlphanumeric (hpiece b (by simp)) hd _ _

theorem any_isWordCharacter {piece : List Char} (h : ∀ c ∈ piece, isPlain c = true) :
    piece.any isWordCharacter = piece.any isAlphanumeric := by
  rw [Bool.eq_iff_iff, List.any_eq_true, List.any_eq_true]
  refine exists_congr fun c => and_congr_right fun hc => ?_
  rw [isWordCharacter_eq (h c hc)]

/-- **Default pieces of a plain text that have a letter or digit are its runs.** -/
theorem filter_pieces_eq_runs {before : List Char} {pieces : List (List Char)}
    (h : Cut DefaultBoundary before pieces) (hplain : ∀ c ∈ pieces.flatten, isPlain c = true) :
    pieces.filter (fun piece => piece.any isWordCharacter) = runs pieces.flatten := by
  induction h with
  | nil before => rfl
  | @cons before piece pieces ne_nil inside behind later ih =>
      rw [List.flatten_cons] at hplain ⊢
      obtain ⟨hpiece, hpieces⟩ := List.forall_mem_append.mp hplain
      rw [List.filter_cons, any_isWordCharacter hpiece, ih hpieces]
      rcases alphanumeric_or_blank_of_inside hpiece inside with hall | hall
      · have hword : piece.any isAlphanumeric = true := by
          obtain ⟨c, hc⟩ := List.exists_mem_of_ne_nil piece ne_nil
          exact List.any_eq_true.mpr ⟨c, hc, hall c hc⟩
        have hbehind : pieces.flatten ≠ [] →
            DefaultBoundary (piece.reverse ++ before) pieces.flatten := by
          intro hne
          exact behind (by rintro rfl; exact hne rfl)
        rw [if_pos hword, runs_append_of_not_blank ne_nil
          (fun c hc => isBlank_of_isAlphanumeric (hall c hc))
          (isBlank_head?_of_behind ne_nil hall hpieces hbehind)]
      · have hgap : ¬ piece.any isAlphanumeric = true := by
          rw [List.any_eq_true]
          rintro ⟨c, hc, hword⟩
          exact Bool.eq_false_iff.mp (isAlphanumeric_of_isBlank (hall c hc)) hword
        rw [if_neg hgap, runs_append_of_blank hall]

theorem filter_eq_runs_of_defaultSegments {text : List Char} {pieces : List (List Char)}
    (hplain : ∀ c ∈ text, isPlain c = true) (h : DefaultSegments text pieces) :
    pieces.filter (fun piece => piece.any isWordCharacter) = runs text := by
  obtain ⟨rfl, hcut⟩ := h
  exact filter_pieces_eq_runs hcut hplain

theorem tokenize_eq_runs {text : String} (hplain : ∀ c ∈ text.toList, isPlain c = true) :
    tokenize text = (runs text.toList).map String.ofList := by
  have hdefault := (defaultSegments_iff (unbound_of_isPlain hplain)).mpr rfl
  rw [tokenize, filter_eq_runs_of_defaultSegments hplain hdefault]

/-! ## Words joined by spaces -/

/-- Words that are joined by spaces are the runs of the text. -/
theorem runs_intercalate {words : List (List Char)}
    (h : ∀ w ∈ words, w ≠ [] ∧ ∀ c ∈ w, isBlank c = false) : runs ([' '].intercalate words) = words := by
  induction words with
  | nil => rfl
  | cons w words ih =>
      obtain ⟨⟨hne, hw⟩, hwords⟩ := List.forall_mem_cons.mp h
      cases words with
      | nil => simpa using runs_of_not_blank hne hw
      | cons next words =>
          have hspace : ∀ d ∈ (' ' :: [' '].intercalate (next :: words)).head?, isBlank d = true := by
            rintro d ⟨⟩
            rfl
          rw [List.intercalate_cons_cons, List.append_assoc, List.singleton_append,
            runs_append_of_not_blank hne hw hspace, runs_cons_blank rfl, ih hwords]

theorem isPlain_of_mem_intercalate {words : List (List Char)}
    (h : ∀ w ∈ words, ∀ c ∈ w, isAlphanumeric c = true) :
    ∀ c ∈ [' '].intercalate words, isPlain c = true := by
  induction words with
  | nil => exact fun c hc => absurd hc List.not_mem_nil
  | cons w words ih =>
      obtain ⟨hw, hwords⟩ := List.forall_mem_cons.mp h
      have hplain : ∀ c ∈ w, isPlain c = true := fun c hc => by simp [isPlain, hw c hc]
      cases words with
      | nil => simpa using hplain
      | cons next words =>
          rw [List.intercalate_cons_cons]
          refine List.forall_mem_append.mpr ⟨List.forall_mem_append.mpr ⟨hplain, ?_⟩, ih hwords⟩
          exact List.forall_mem_singleton.mpr rfl

/-- **Plain text is split at its whitespace.** For every text of ASCII letters, digits and whitespace,
the words are its runs of other characters than whitespace, in order, whether they are found by the
segmenter or among the pieces that the default rules on word boundaries give. So words that are joined
by single spaces are read back. -/
theorem tokenize_plain :
    (∀ text : String, (∀ c ∈ text.toList, isPlain c = true) →
      tokenize text = (runs text.toList).map String.ofList ∧
      ∀ pieces, DefaultSegments text.toList pieces →
        (pieces.filter fun piece => piece.any isWordCharacter).map String.ofList =
          (runs text.toList).map String.ofList) ∧
    ∀ words : List String, (∀ w ∈ words, w ≠ "" ∧ ∀ c ∈ w.toList, isAlphanumeric c = true) →
      tokenize (" ".intercalate words) = words := by
  refine ⟨fun text hplain => ⟨tokenize_eq_runs hplain, fun pieces hpieces => ?_⟩,
    fun words hwords => ?_⟩
  · rw [filter_eq_runs_of_defaultSegments hplain hpieces]
  · have hchars : (" ".intercalate words).toList = [' '].intercalate (words.map String.toList) :=
      String.toList_intercalate
    have hwordChars : ∀ w ∈ words.map String.toList, w ≠ [] ∧ ∀ c ∈ w, isAlphanumeric c = true := by
      intro w hw
      obtain ⟨word, hword, rfl⟩ := List.mem_map.mp hw
      obtain ⟨hne, hall⟩ := hwords word hword
      exact ⟨fun hnil => hne (String.toList_eq_nil_iff.mp hnil), hall⟩
    have hplain : ∀ c ∈ (" ".intercalate words).toList, isPlain c = true := by
      rw [hchars]
      exact isPlain_of_mem_intercalate fun w hw => (hwordChars w hw).2
    have hruns : runs (" ".intercalate words).toList = words.map String.toList := by
      rw [hchars]
      refine runs_intercalate fun w hw => ?_
      obtain ⟨hne, hall⟩ := hwordChars w hw
      exact ⟨hne, fun c hc => isBlank_of_isAlphanumeric (hall c hc)⟩
    rw [tokenize_eq_runs hplain, hruns, List.map_map]
    exact List.map_id'' (fun w => String.ofList_toList) words

/-- Line ends of all kinds, leading and trailing, and digits next to letters. -/
theorem tokenize_plain_mixed_whitespace :
    let text := "\r\n 1st\t\x0b2nd\x0c \n3\r"
    let words := ["the", "42nd", "x0y1"]
    (∀ c ∈ text.toList, isPlain c = true) ∧ tokenize text = ["1st", "2nd", "3"] ∧
      (∀ w ∈ words, w ≠ "" ∧ ∀ c ∈ w.toList, isAlphanumeric c = true) ∧
      tokenize (" ".intercalate words) = words := by
  intro text words
  have hplain : ∀ c ∈ text.toList, isPlain c = true := List.all_eq_true.mp (by decide)
  have hwords : ∀ w ∈ words, w ≠ "" ∧ ∀ c ∈ w.toList, isAlphanumeric c = true := by
    have hall : ∀ w ∈ words, w ≠ "" ∧ w.toList.all isAlphanumeric = true := by decide
    exact fun w hw => ⟨(hall w hw).1, List.all_eq_true.mp (hall w hw).2⟩
  have hruns : (runs text.toList).map String.ofList = ["1st", "2nd", "3"] := by decide +kernel
  obtain ⟨htext, -⟩ := tokenize_plain.1 text hplain
  exact ⟨hplain, htext.trans hruns, hwords, tokenize_plain.2 words hwords⟩

end ChartParsing
