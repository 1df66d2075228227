import ChartParsing.Words.Tokenize
import Mathlib.Data.List.Chain
import Mathlib.Tactic.MkIffOfInductiveProp

/-!
# Default word boundaries

The segments of a text are cut at the places that `isBoundary` tells, and at no others
(`cut_segments`). For comparison the default rules of Unicode are stated one by one (`Joined`): a place
is a boundary by default if none of them joins the characters around it. There is only one way to cut
a text at given boundaries (`Cut.unique`), and a text in which no pictograph stands right behind a
joiner is cut at the default ones (`defaultSegments_iff`).
-/

set_option autoImplicit false

namespace ChartParsing

/-! ## Cutting at boundaries -/

/-- **Pieces of a text are cut at its boundaries**: there is one behind each piece but the last, and
none inside a piece. What was read before the pieces is listed with the nearest character first, and
so is what is before a place that may be a boundary. -/
inductive Cut (boundary : List Char → List Char → Prop) : List Char → List (List Char) → Prop where
  | nil (before : List Char) : Cut boundary before []
  | cons {before piece : List Char} {pieces : List (List Char)} (ne_nil : piece ≠ [])
      (inside : ∀ first second, piece = first ++ second → first ≠ [] → second ≠ [] →
        ¬ boundary (first.reverse ++ before) (second ++ pieces.flatten))
      (behind : pieces ≠ [] → boundary (piece.reverse ++ before) pieces.flatten)
      (later : Cut boundary (piece.reverse ++ before) pieces) : Cut boundary before (piece :: pieces)

namespace Cut

variable {boundary other : List Char → List Char → Prop} {before : List Char}
  {pieces others : List (List Char)}

/-- What is cut at some boundaries is cut at all that are told the same way. -/
theorem congr (h : Cut boundary before pieces)
    (hsame : ∀ x y, x.reverse ++ y = before.reverse ++ pieces.flatten → (boundary x y ↔ other x y)) :
    Cut other before pieces := by
  induction h with
  | nil before => exact .nil before
  | @cons before piece pieces ne_nil inside behind later ih =>
      refine .cons ne_nil ?_ ?_ (ih ?_)
      · intro first second hpiece hfirst hsecond
        rw [← hsame _ _ (by simp [hpiece])]
        exact inside first second hpiece hfirst hsecond
      · intro hpieces
        rw [← hsame _ _ (by simp)]
        exact behind hpieces
      · intro x y hxy
        exact hsame x y (by simpa using hxy)

/-- A piece that is followed by a boundary is no proper part of a piece that has none inside. -/
theorem eq_nil_of_inside {piece more : List Char} (hpiece : piece ≠ [])
    (behind : pieces ≠ [] → boundary (piece.reverse ++ before) pieces.flatten)
    (inside : ∀ first second, piece ++ more = first ++ second → first ≠ [] → second ≠ [] →
      ¬ boundary (first.reverse ++ before) (second ++ others.flatten))
    (hrest : pieces.flatten = more ++ others.flatten) : more = [] := by
  by_contra hmore
  have hpieces : pieces ≠ [] := by
    rintro rfl
    exact hmore (List.append_eq_nil_iff.mp hrest.symm).1
  refine inside piece more rfl hpiece hmore ?_
  rw [← hrest]
  exact behind hpieces

/-- **There is only one way to cut a text at given boundaries.** -/
theorem unique (h : Cut boundary before pieces) (h' : Cut boundary before others)
    (htext : pieces.flatten = others.flatten) : pieces = others := by
  induction h generalizing others with
  | nil before =>
      cases h' with
      | nil => rfl
      | cons ne_nil => simp [ne_nil] at htext
  | @cons before piece pieces ne_nil inside behind later ih =>
      cases h' with
      | nil => simp [ne_nil] at htext
      | @cons _ piece' others ne_nil' inside' behind' later' =>
          -- the shorter one of the first two pieces has a boundary behind it
          have hpiece : piece = piece' := by
            rw [List.flatten_cons, List.flatten_cons] at htext
            rcases List.append_eq_append_iff.mp htext with ⟨more, hmore, hrest⟩ | ⟨more, hmore, hrest⟩
            · have hnil := eq_nil_of_inside ne_nil behind (hmore ▸ inside') hrest
              rw [hmore, hnil, List.append_nil]
            · have hnil := eq_nil_of_inside ne_nil' behind' (hmore ▸ inside) hrest
              rw [hmore, hnil, List.append_nil]
          subst hpiece
          have hrest : pieces.flatten = others.flatten := by simpa using htext
          rw [ih later' hrest]

end Cut

/-- The segment at hand goes on as long as there is no boundary. -/
theorem cut_segmentsFrom {earlier current text : List Char}
    (inside : ∀ first second, current.reverse = first ++ second → first ≠ [] → second ≠ [] →
      ¬ isBoundary (first.reverse ++ earlier) (second ++ text) = true) :
    Cut (fun before behind => isBoundary before behind = true) earlier
      (segmentsFrom (current ++ earlier) current text) := by
  induction text generalizing earlier current with
  | nil =>
      unfold segmentsFrom
      split
      next => exact .nil earlier
      next hcurrent =>
        have hne : current.reverse ≠ [] := by simpa using hcurrent
        exact .cons hne inside (fun h => absurd rfl h) (.nil _)
  | cons c rest ih =>
      unfold segmentsFrom
      split
      next hboundary =>
        rw [Bool.and_eq_true] at hboundary
        have hne : current.reverse ≠ [] := by simpa using hboundary.1
        have hflatten : (segmentsFrom (c :: (current ++ earlier)) [c] rest).flatten = c :: rest :=
          flatten_segmentsFrom _ _ _
        refine .cons hne ?_ ?_ ?_
        · rw [hflatten]
          exact inside
        · intro _
          rw [hflatten, List.reverse_reverse]
          exact hboundary.2
        · rw [List.reverse_reverse]
          refine @ih (current ++ earlier) [c] fun first second hsplit hfirst hsecond => ?_
          -- a single character has no place inside
          rcases List.append_eq_singleton_iff.mp hsplit.symm with ⟨hnil, -⟩ | ⟨-, hnil⟩
          · exact absurd hnil hfirst
          · exact absurd hnil hsecond
      next hboundary =>
        refine @ih earlier (c :: current) fun first second hsplit hfirst hsecond => ?_
        obtain ⟨second, d, rfl⟩ := (List.eq_nil_or_concat' second).resolve_left hsecond
        rw [List.reverse_cons, ← List.append_assoc] at hsplit
        obtain ⟨hcurrent, hd⟩ := List.append_inj' hsplit rfl
        obtain rfl : c = d := List.head_eq_of_cons_eq hd
        -- the place is right before `c`, or it was inside already
        by_cases hsecond : second = []
        · rw [hsecond, List.append_nil] at hcurrent
          have hne : current.isEmpty = false := by
            rw [List.isEmpty_eq_false_iff, ← List.reverse_ne_nil_iff, hcurrent]
            exact hfirst
          rw [hsecond, ← hcurrent, List.reverse_reverse]
          simpa [hne] using hboundary
        · have hplace := inside first second hcurrent hfirst hsecond
          rwa [List.append_assoc]

/-- **The segments of a text are cut at the boundaries of the text.** -/
theorem cut_segments (text : List Char) :
    Cut (fun before behind => isBoundary before behind = true) [] (segments text) := by
  refine @cut_segmentsFrom [] [] text fun first second hsplit hfirst _ => ?_
  exact absurd (List.append_eq_nil_iff.mp hsplit.symm).1 hfirst

/-! ## The default rules -/

/-- **Four characters in a row, by their classes, join the two in the middle.** -/
inductive BreakClass.Join (left2 left right right2 : BreakClass) : Prop where
  | letters (hleft : left.isLetter = true) (hright : right.isLetter = true)
  | letterMark (hleft : left.isLetter = true) (hmark : right.isBetweenLetters = true)
      (hright : right2.isLetter = true)
  | markLetter (hleft : left2.isLetter = true) (hmark : left.isBetweenLetters = true)
      (hright : right.isLetter = true)
  | hebrewQuote (hleft : left = .hebrewLetter) (hright : right = .singleQuote)
  | hebrewQuotes (hleft : left = .hebrewLetter) (hmark : right = .doubleQuote)
      (hright : right2 = .hebrewLetter)
  | quotesHebrew (hleft : left2 = .hebrewLetter) (hmark : left = .doubleQuote)
      (hright : right = .hebrewLetter)
  | digits (hleft : left = .numeric) (hright : right = .numeric)
  | letterDigit (hleft : left.isLetter = true) (hright : right = .numeric)
  | digitLetter (hleft : left = .numeric) (hright : right.isLetter = true)
  | markDigit (hleft : left2 = .numeric) (hmark : left.isBetweenDigits = true)
      (hright : right = .numeric)
  | digitMark (hleft : left = .numeric) (hmark : right.isBetweenDigits = true)
      (hright : right2 = .numeric)
  | katakana (hleft : left = .katakana) (hright : right = .katakana)
  /-- A connecting line ends what it may be a part of. -/
  | lineBehind (hleft : left.isConnected = true) (hright : right = .extendNumLet)
  | lineBefore (hleft : left = .extendNumLet) (hright : right.isConnected = true)

/-- The class of the nearest character that is not skipped. -/
def nearestClass (cs : List Char) : BreakClass := firstClass (skipIgnored cs)

/-- **No word ends at a place inside a line**, by one of the default rules. -/
@[mk_iff]
inductive Kept (before behind : List Char) : Prop where
  | pictograph (hbefore : firstClass before = .joiner)
      (hbehind : behind.head?.any isPictographic = true)
  | spaces (hbefore : firstClass before = .space) (hbehind : firstClass behind = .space)
  /-- What is skipped belongs to the character before it. -/
  | ignored (hbehind : (firstClass behind).isIgnored = true)
  | classes (h : BreakClass.Join (nearestClass (skipIgnored before).tail) (nearestClass before)
      (firstClass behind) (nearestClass behind.tail))
  /-- Regional indicators go in pairs. -/
  | indicators (hbefore : nearestClass before = .regionalIndicator)
      (hbehind : firstClass behind = .regionalIndicator) (hodd : indicatorRun before % 2 = 1)

/-- **The characters before and behind a place are joined by default.** A line ends wherever it can,
before any other rule is looked at. -/
@[mk_iff]
inductive Joined (before behind : List Char) : Prop where
  | lineEnd (hbefore : firstClass before = .carriageReturn) (hbehind : firstClass behind = .lineFeed)
  | inLine (hbefore : (firstClass before).isLineEnd = false)
      (hbehind : (firstClass behind).isLineEnd = false) (h : Kept before behind)

/-- **A default boundary** is a place where no rule joins what is before and behind it. -/
def DefaultBoundary (before behind : List Char) : Prop := ¬ Joined before behind

/-- If no pictograph is bound behind the place, the rules for four characters are the default ones. -/
theorem joins_iff_join {left2 left right right2 : BreakClass} (h : right2 ≠ .boundPictograph) :
    joins left2 left right right2 = true ↔ BreakClass.Join left2 left right right2 := by
  simp only [joins, Bool.or_eq_true, Bool.and_eq_true, beq_iff_eq, or_assoc, and_assoc]
  constructor
  · rintro (⟨hl, hr⟩ | ⟨hl, hm, hr⟩ | ⟨hl, hm, hr⟩ | ⟨hl, hr⟩ | ⟨hl, hm, hr⟩ | ⟨hl, hm, hr⟩ | ⟨hl, hr⟩ |
      ⟨hl, hr⟩ | ⟨hl, hr⟩ | ⟨hl, hm, hr⟩ | ⟨hl, hm, hr⟩ | ⟨-, hr⟩ | ⟨hl, hr⟩ | ⟨hl, hr⟩ | ⟨hl, hr⟩)
    · exact .letters hl hr
    · exact .letterMark hl hm hr
    · exact .markLetter hl hm hr
    · exact .hebrewQuote hl hr
    · exact .hebrewQuotes hl hm hr
    · exact .quotesHebrew hl hm hr
    · exact .digits hl hr
    · exact .letterDigit hl hr
    · exact .digitLetter hl hr
    · exact .markDigit hl hm hr
    · exact .digitMark hl hm hr
    · exact absurd hr h
    · exact .katakana hl hr
    · exact .lineBehind hl hr
    · exact .lineBefore hl hr
  · intro hjoin
    cases hjoin <;> simp [*]

/-! ## Bound pictographs -/

/-- No pictograph stands right behind a joiner. -/
def Unbound (text : List Char) : Prop :=
  text.IsChain fun c d => breakClass c = .joiner → isPictographic d = false

theorem breakClass_ne_boundPictograph (c : Char) : breakClass c ≠ .boundPictograph := by
  have hite {p : Prop} [Decidable p] {a b : BreakClass} (ha : a ≠ .boundPictograph)
      (hb : b ≠ .boundPictograph) : (if p then a else b) ≠ .boundPictograph := by
    split
    · exact ha
    · exact hb
  unfold breakClass
  by_cases hascii : c.toNat < 0x80
  · rw [if_pos hascii]
    unfold asciiBreakClass
    repeat' apply hite
    all_goals decide
  · rw [if_neg hascii]
    split
    next cls ranges hfind =>
      have hentry : (cls, ranges) ∈ classRanges := List.mem_of_find?_eq_some hfind
      have hclasses : classRanges.all (fun entry => entry.1 != .boundPictograph) = true := rfl
      simpa using List.all_eq_true.mp hclasses (cls, ranges) hentry
    next => decide

theorem nearestClass_ne_boundPictograph (cs : List Char) : nearestClass cs ≠ .boundPictograph := by
  unfold nearestClass firstClass
  split
  · decide
  · exact breakClass_ne_boundPictograph _

theorem nearestClass_cons (c : Char) (cs : List Char) :
    nearestClass (c :: cs) = if (breakClass c).isIgnored then nearestClass cs else breakClass c := by
  unfold nearestClass skipIgnored
  rw [List.dropWhile_cons]
  split <;> rfl

/-- What is nearest before a place has its own class, if it is no bound pictograph. -/
theorem classBefore_eq {before : List Char} (h : Unbound before.reverse) :
    classBefore before = nearestClass before := by
  have hchain : (skipIgnored before).IsChain fun c d =>
      breakClass d = .joiner → isPictographic c = false :=
    (List.isChain_reverse.mp h).suffix (List.dropWhile_suffix _)
  unfold classBefore nearestClass
  cases hskip : skipIgnored before with
  | nil => rfl
  | cons c earlier =>
      rw [hskip] at hchain
      cases earlier with
      | nil => simp [firstClass]
      | cons d earlier =>
          have hbound := (List.isChain_cons_cons.mp hchain).1
          by_cases hd : breakClass d = .joiner
          · simp [firstClass, hbound hd]
          · simp [firstClass, hd]

/-- What is nearest behind a place has its own class, if it is no bound pictograph. -/
theorem classBehind_eq {behind : List Char} {joined : Bool} (h : Unbound behind)
    (hjoined : joined = true → ∀ c ∈ behind.head?, isPictographic c = false) :
    classBehind joined behind = nearestClass behind := by
  induction behind generalizing joined with
  | nil => rfl
  | cons c rest ih =>
      have hc : (joined && isPictographic c) = false := by
        cases joined with
        | false => rfl
        | true => simpa using hjoined rfl c rfl
      have hrest : (breakClass c == .joiner) = true → ∀ d ∈ rest.head?, isPictographic d = false := by
        intro hjoiner d hd
        obtain ⟨rest, rfl⟩ := List.head?_eq_some_iff.mp hd
        exact (List.isChain_cons_cons.mp h).1 (beq_iff_eq.mp hjoiner)
      rw [classBehind, nearestClass_cons, hc, ih h.tail hrest]
      rfl

/-- **Where no pictograph is bound, the boundaries are the default ones.** -/
theorem isBoundary_iff_defaultBoundary {before behind : List Char}
    (h : Unbound (before.reverse ++ behind)) :
    isBoundary before behind = true ↔ DefaultBoundary before behind := by
  have hbefore : Unbound before.reverse := h.left_of_append
  have hbehind : Unbound behind.tail := h.right_of_append.tail
  have hearlier : Unbound (skipIgnored before).tail.reverse :=
    List.isChain_reverse.mpr ((List.isChain_reverse.mp hbefore).suffix
      ((List.tail_suffix _).trans (List.dropWhile_suffix _)))
  have hright : classBehind false behind.tail = nearestClass behind.tail :=
    classBehind_eq hbehind (by simp)
  rw [isBoundary, classBefore_eq hbefore, classBefore_eq hearlier, hright, DefaultBoundary,
    joined_iff, kept_iff, ← joins_iff_join (nearestClass_ne_boundPictograph _)]
  -- both sides name the same conditions, the one in the order in which they are looked at
  grind

/-- **The default segments of a text** make it up, and are cut at its default boundaries. -/
def DefaultSegments (text : List Char) (pieces : List (List Char)) : Prop :=
  pieces.flatten = text ∧ Cut DefaultBoundary [] pieces

/-- **A text without bound pictographs has its default segments**, and no others. -/
theorem defaultSegments_iff {text : List Char} (h : Unbound text) {pieces : List (List Char)} :
    DefaultSegments text pieces ↔ pieces = segments text := by
  have hcut : Cut DefaultBoundary [] (segments text) := by
    refine (cut_segments text).congr fun before behind htext => isBoundary_iff_defaultBoundary ?_
    rw [htext, List.reverse_nil, List.nil_append, flatten_segments]
    exact h
  constructor
  · rintro ⟨htext, hpieces⟩
    exact hpieces.unique hcut (htext.trans (flatten_segments text).symm)
  · rintro rfl
    exact ⟨flatten_segments text, hcut⟩

end ChartParsing
