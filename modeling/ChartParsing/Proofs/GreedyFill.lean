import ChartParsing.Rule

/-!
# Greedy fills

A rule that is too wide for a line is continued on further ones. A greedy fill leaves a symbol on
the current line if the line has room for a space and the symbol, and starts a new line otherwise.
`fill` makes these choices one after the other, `lines` says which lines they give, and `lastLine`
which line is the current one.

Main lemmas: `getElem?_fill_eq_newline_iff` for each choice by itself, and `mem_lines_fill` for the
lines that come out.
-/

set_option autoImplicit false

namespace ChartParsing

/-! ## Separators -/

/-- **What stands in front of a symbol** on the right-hand side of a rule. -/
inductive Separator where
  | space
  | newline
deriving DecidableEq

/-- How far the line is indented that the symbol number `i`, counted from 0, starts. -/
def indentAt : (i : Nat) → Nat
  | 0 => 0
  | _ + 1 => 2

/-- The separator in front of the symbol number `i`. -/
def Separator.text : (i : Nat) → Separator → String
  | _, .space => " "
  | 0, .newline => "\n"
  | _ + 1, .newline => "\n  "

/-- The symbols behind their separators, from the symbol number `i` on. -/
def separated : (i : Nat) → List (Separator × Symbol) → String
  | _, [] => ""
  | i, (separator, s) :: rest => separator.text i ++ s ++ separated (i + 1) rest

/-! ## Lines -/

/-- **A line of a rule**: the head of the rule or a symbol, and symbols behind it. -/
structure Line where
  indent : Nat
  first : String
  /-- Each of these stands behind a space. -/
  rest : List Symbol

namespace Line

def text (line : Line) : String :=
  String.ofList (List.replicate line.indent ' ') ++ line.first ++ spaced line.rest

/-- The bytes of the line. -/
def width (line : Line) : Nat := line.text.utf8ByteSize

/-- The line that the symbol number `i` gets on, behind a separator. -/
def next (line : Line) (i : Nat) (s : Symbol) : Separator → Line
  | .space => { line with rest := line.rest ++ [s] }
  | .newline => ⟨indentAt i, s, []⟩

end Line

/-- The line on which the last of the symbols stands. -/
def lastLine : (i : Nat) → Line → List (Separator × Symbol) → Line
  | _, line, [] => line
  | i, line, (separator, s) :: rest => lastLine (i + 1) (line.next i s separator) rest

/-- All lines, of which the given one is the first. -/
def lines : (i : Nat) → Line → List (Separator × Symbol) → List Line
  | _, line, [] => [line]
  | i, line, (.space, s) :: rest => lines (i + 1) (line.next i s .space) rest
  | i, line, (.newline, s) :: rest => line :: lines (i + 1) (line.next i s .newline) rest

/-- **The greedy choice of separators**: a new line where the symbol does not fit on the line. -/
def fill (width : Nat) : (i : Nat) → Line → List Symbol → List Separator
  | _, _, [] => []
  | i, line, s :: rest =>
    if width < line.width + 1 + s.utf8ByteSize then
      .newline :: fill width (i + 1) (line.next i s .newline) rest
    else .space :: fill width (i + 1) (line.next i s .space) rest

namespace Rule

/-- What a rule starts with, whatever the width. -/
def head (r : Rule) : String := r.lhs ++ " -->"

/-- The line with the head of the rule. -/
def headLine (r : Rule) : Line := ⟨0, r.head, []⟩

/-- The separators that a greedy fill puts in front of the symbols of a rule. -/
def separators (width : Nat) (r : Rule) : List Separator := fill width 0 r.headLine r.rhs

/-- The symbols of a rule behind the separators that a greedy fill puts there. -/
def filled (width : Nat) (r : Rule) : List (Separator × Symbol) := (r.separators width).zip r.rhs

end Rule

/-! ## The width of a line -/

@[simp] theorem utf8ByteSize_space : " ".utf8ByteSize = 1 := rfl

/-- A line end and the indentation behind it make up the separator. -/
theorem newline_append_indent (i : Nat) :
    "\n" ++ String.ofList (List.replicate (indentAt i) ' ') = Separator.newline.text i := by
  cases i with
  | zero => rfl
  | succ i => rfl

theorem utf8ByteSize_indent (i : Nat) :
    (String.ofList (List.replicate (indentAt i) ' ')).utf8ByteSize = indentAt i := by
  cases i with
  | zero => rfl
  | succ i => rfl

theorem spaced_append (symbols more : List Symbol) :
    spaced (symbols ++ more) = spaced symbols ++ spaced more := by
  induction symbols with
  | nil => simp [spaced]
  | cons s rest ih => simp [spaced, ih, String.append_assoc]

namespace Line

theorem text_next_space (line : Line) (i : Nat) (s : Symbol) :
    (line.next i s .space).text = line.text ++ " " ++ s := by
  simp [next, text, spaced_append, spaced, String.append_assoc]

theorem newline_text_next (line : Line) (i : Nat) (s : Symbol) :
    "\n" ++ (line.next i s .newline).text = Separator.newline.text i ++ s := by
  simp [next, text, spaced, ← newline_append_indent, String.append_assoc]

theorem width_next_space (line : Line) (i : Nat) (s : Symbol) :
    (line.next i s .space).width = line.width + 1 + s.utf8ByteSize := by
  simp [width, text_next_space]

theorem width_next_newline (line : Line) (i : Nat) (s : Symbol) :
    (line.next i s .newline).width = indentAt i + s.utf8ByteSize := by
  simp [width, next, text, spaced, utf8ByteSize_indent]

end Line

/-! ## Lines of a fill -/

theorem lines_ne_nil (i : Nat) (line : Line) (pieces : List (Separator × Symbol)) :
    lines i line pieces ≠ [] := by
  induction pieces generalizing i line with
  | nil => simp [lines]
  | cons piece rest ih =>
      obtain ⟨separator, s⟩ := piece
      cases separator with
      | space => exact ih (i + 1) (line.next i s .space)
      | newline => simp [lines]

/-- **The lines are what is written between the line ends.** -/
theorem intercalate_lines (i : Nat) (line : Line) (pieces : List (Separator × Symbol)) :
    "\n".intercalate ((lines i line pieces).map Line.text) = line.text ++ separated i pieces := by
  induction pieces generalizing i line with
  | nil => simp [lines, separated]
  | cons piece rest ih =>
      obtain ⟨separator, s⟩ := piece
      cases separator with
      | space =>
          have hrest := ih (i + 1) (line.next i s .space)
          rw [Line.text_next_space] at hrest
          simpa [lines, separated, Separator.text, String.append_assoc] using hrest
      | newline =>
          have hrest := ih (i + 1) (line.next i s .newline)
          have hne : (lines (i + 1) (line.next i s .newline) rest).map Line.text ≠ [] := by
            simp [lines_ne_nil]
          calc "\n".intercalate ((lines i line ((.newline, s) :: rest)).map Line.text)
              = line.text ++ "\n" ++ ((line.next i s .newline).text ++ separated (i + 1) rest) := by
                rw [lines, List.map_cons, String.intercalate_cons_of_ne_nil hne, hrest]
            _ = line.text ++ (("\n" ++ (line.next i s .newline).text) ++ separated (i + 1) rest) := by
                simp [String.append_assoc]
            _ = line.text ++ separated i ((.newline, s) :: rest) := by
                rw [Line.newline_text_next, separated]

/-! ## Greedy choices -/

theorem length_fill (width i : Nat) (line : Line) (symbols : List Symbol) :
    (fill width i line symbols).length = symbols.length := by
  induction symbols generalizing i line with
  | nil => rfl
  | cons s rest ih =>
      unfold fill
      split <;> simp [ih]

/-- A fill puts the symbol behind the separator that the width asks for, and goes on. -/
theorem fill_cons (width i : Nat) (line : Line) (s : Symbol) (rest : List Symbol) :
    ∃ separator, (separator = .newline ↔ width < line.width + 1 + s.utf8ByteSize) ∧
      fill width i line (s :: rest) = separator :: fill width (i + 1) (line.next i s separator) rest := by
  by_cases h : width < line.width + 1 + s.utf8ByteSize
  · exact ⟨.newline, by simp [h], by rw [fill, if_pos h]⟩
  · exact ⟨.space, by simp [h], by rw [fill, if_neg h]⟩

/-- **A separator is a line end exactly if the line has no room for a space and the symbol.** -/
theorem getElem?_fill_eq_newline_iff (width i : Nat) (line : Line) {symbols : List Symbol} {k : Nat}
    {s : Symbol} (hs : symbols[k]? = some s) :
    (fill width i line symbols)[k]? = some .newline ↔
      width < (lastLine i line (((fill width i line symbols).zip symbols).take k)).width + 1 +
        s.utf8ByteSize := by
  induction symbols generalizing i line k with
  | nil => simp at hs
  | cons first rest ih =>
      obtain ⟨separator, hseparator, hfill⟩ := fill_cons width i line first rest
      rw [hfill]
      cases k with
      | zero =>
          have hfirst : first = s := by simpa using hs
          simpa [lastLine, ← hfirst] using hseparator
      | succ k =>
          have hrest : rest[k]? = some s := by simpa using hs
          simpa [lastLine] using ih (i + 1) (line.next i first separator) hrest

/-- A line starts with the first piece of the given one, or with a symbol. -/
theorem first_of_mem_lines {i : Nat} {line other : Line} {separators : List Separator}
    {symbols : List Symbol} (h : other ∈ lines i line (separators.zip symbols)) :
    other.first = line.first ∨ other.first ∈ symbols := by
  induction symbols generalizing i line separators with
  | nil =>
      have hother : other = line := by simpa [lines] using h
      exact Or.inl (by rw [hother])
  | cons s rest ih =>
      cases separators with
      | nil =>
          have hother : other = line := by simpa [lines] using h
          exact Or.inl (by rw [hother])
      | cons separator separators =>
          cases separator with
          | space =>
              rcases ih h with hfirst | hrest
              · exact Or.inl hfirst
              · exact Or.inr (List.mem_cons_of_mem s hrest)
          | newline =>
              rcases List.mem_cons.mp h with hother | h
              · exact Or.inl (by rw [hother])
              · rcases ih h with hfirst | hrest
                · exact Or.inr (hfirst ▸ List.mem_cons_self)
                · exact Or.inr (List.mem_cons_of_mem s hrest)

/-- **Only a line that cannot be broken is too wide**: nothing stands behind its first piece. -/
theorem mem_lines_fill {width i : Nat} {line other : Line} {symbols : List Symbol}
    (hline : width < line.width → line.rest = [])
    (h : other ∈ lines i line ((fill width i line symbols).zip symbols))
    (hwide : width < other.width) : other.rest = [] := by
  induction symbols generalizing i line with
  | nil =>
      have hother : other = line := by simpa [lines] using h
      rw [hother] at hwide ⊢
      exact hline hwide
  | cons s rest ih =>
      obtain ⟨separator, hseparator, hfill⟩ := fill_cons width i line s rest
      rw [hfill, List.zip_cons_cons] at h
      cases separator with
      | space =>
          have hroom : ¬width < line.width + 1 + s.utf8ByteSize := by simpa using hseparator
          refine ih (fun hnext => ?_) h
          rw [Line.width_next_space] at hnext
          exact absurd hnext hroom
      | newline =>
          rcases List.mem_cons.mp h with hother | hrest
          · rw [hother] at hwide ⊢
            exact hline hwide
          · exact ih (fun _ => rfl) hrest

/-! ## Fills on one line -/

theorem separated_spaces (i : Nat) (symbols : List Symbol) :
    separated i ((List.replicate symbols.length .space).zip symbols) = spaced symbols := by
  induction symbols generalizing i with
  | nil => rfl
  | cons s rest ih => simp [List.replicate_succ, separated, Separator.text, spaced, ih]

theorem lines_spaces (i : Nat) (line : Line) (symbols : List Symbol) :
    lines i line ((List.replicate symbols.length .space).zip symbols) =
      [{ line with rest := line.rest ++ symbols }] := by
  induction symbols generalizing i line with
  | nil => simp [lines]
  | cons s rest ih => simp [List.replicate_succ, lines, Line.next, ih]

/-- If there is room for all symbols, a fill puts them on one line. -/
theorem fill_eq_spaces {width i : Nat} {line : Line} {symbols : List Symbol}
    (h : line.width + (spaced symbols).utf8ByteSize ≤ width) :
    fill width i line symbols = List.replicate symbols.length .space := by
  induction symbols generalizing i line with
  | nil => rfl
  | cons s rest ih =>
      simp only [spaced, String.utf8ByteSize_append, utf8ByteSize_space] at h
      have hroom : ¬width < line.width + 1 + s.utf8ByteSize := by omega
      have hnext : (line.next i s .space).width + (spaced rest).utf8ByteSize ≤ width := by
        rw [Line.width_next_space]
        omega
      rw [fill, if_neg hroom, ih hnext, List.length_cons, List.replicate_succ]

namespace Rule

variable {width : Nat} {r : Rule}

theorem display_eq (r : Rule) : r.display = r.head ++ spaced r.rhs := rfl

theorem width_headLine (r : Rule) : r.headLine.width = r.head.utf8ByteSize := by
  simp [headLine, Line.width, Line.text, spaced]

theorem length_separators (width : Nat) (r : Rule) : (r.separators width).length = r.rhs.length :=
  length_fill width 0 r.headLine r.rhs

/-- A rule that fits is written with a space in front of each symbol. -/
theorem separators_eq_spaces (h : r.display.utf8ByteSize ≤ width) :
    r.separators width = List.replicate r.rhs.length .space := by
  refine fill_eq_spaces ?_
  rw [width_headLine]
  simpa [display_eq] using h

/-- **A rule is on one line exactly if it fits.** -/
theorem separators_all_spaces_iff :
    (∀ separator ∈ r.separators width, separator = .space) ↔ r.display.utf8ByteSize ≤ width := by
  constructor
  · intro hall
    have hspaces : r.separators width = List.replicate r.rhs.length .space := by
      exact List.eq_replicate_iff.mpr ⟨length_separators width r, hall⟩
    refine Nat.not_lt.mp fun hwide => ?_
    have hline : { r.headLine with rest := r.headLine.rest ++ r.rhs } ∈
        lines 0 r.headLine ((r.separators width).zip r.rhs) := by
      simp [hspaces, lines_spaces]
    have hrest := mem_lines_fill (fun _ => rfl) hline (by
      simpa [Line.width, Line.text, headLine, display_eq] using hwide)
    exact r.rhs_ne_nil hrest
  · intro h separator hseparator
    rw [separators_eq_spaces h] at hseparator
    exact List.eq_of_mem_replicate hseparator

end Rule

end ChartParsing
