import ChartParsing.Grammar.Layout
import ChartParsing.Proofs.GreedyFill

/-!
# A rule is laid out as a greedy fill

The layout of a rule decides for the group as a whole whether it is flat, and otherwise for each
optional line end by a look at what follows, up to the next one. Both come to the same: a symbol
stays on the line if there is room for it (`Rule.layout_doc`). A grammar is laid out rule by rule.

Main theorem: `render_greedy`.
-/

set_option autoImplicit false

namespace ChartParsing

/-! ## Parts of a document in sequence -/

namespace Doc

@[simp] theorem fits_append (width : Nat) (first second : Doc) (mode : Mode) (rest : Nat → Bool)
    (column : Nat) :
    (first ++ second).fits width mode rest column =
      first.fits width mode (second.fits width mode rest) column := rfl

@[simp] theorem layout_append (width : Nat) (first second : Doc) (mode : Mode) (indent : Nat)
    (rest : Rest) (column : Nat) :
    (first ++ second).layout width mode indent rest column =
      first.layout width mode indent
        ⟨second.fits width .broken rest.fits, second.layout width mode indent rest⟩ column := rfl

end Doc

/-! ## The layout of a rule

Behind a rule stands a line end or nothing, so all that follows it always fits, and is written the
same in every column. -/

/-- What follows a rule. -/
def behind (text : String) : Doc.Rest := ⟨fun _ => true, fun _ => text⟩

@[simp] theorem fits_behind (text : String) : (behind text).fits = fun _ => true := rfl

/-- Symbols with an optional line end between any two. -/
def symbolsDoc (symbols : List Symbol) : Doc := .join .softline (symbols.map .text)

theorem symbolsDoc_singleton (s : Symbol) : symbolsDoc [s] = .text s := rfl

theorem symbolsDoc_cons_cons (s second : Symbol) (rest : List Symbol) :
    symbolsDoc (s :: second :: rest) = .text s ++ .softline ++ symbolsDoc (second :: rest) := rfl

/-- Symbols fit up to the next line end if the first of them does. -/
theorem fits_symbolsDoc_broken (width : Nat) (s : Symbol) (rest : List Symbol) (column : Nat) :
    (symbolsDoc (s :: rest)).fits width .broken (fun _ => true) column =
      decide (column + s.utf8ByteSize ≤ width) := by
  cases rest with
  | nil => simp [symbolsDoc_singleton, Doc.fits]
  | cons second rest => simp [symbolsDoc_cons_cons, Doc.softline, Doc.fits]

/-- Symbols fit on the line if all of them do, with a space in front of each but the first. -/
theorem fits_symbolsDoc_flat (width : Nat) (s : Symbol) (rest : List Symbol) (column : Nat) :
    (symbolsDoc (s :: rest)).fits width .flat (fun _ => true) column =
      decide (column + (s ++ spaced rest).utf8ByteSize ≤ width) := by
  induction rest generalizing s column with
  | nil => simp [symbolsDoc_singleton, Doc.fits, spaced]
  | cons second rest ih =>
      simp only [symbolsDoc_cons_cons, Doc.softline, Doc.fits_append, Doc.fits, ih, spaced,
        String.utf8ByteSize_append, utf8ByteSize_space, ← Bool.decide_and, decide_eq_decide]
      omega

theorem layout_symbolsDoc_flat (width indent : Nat) (s : Symbol) (rest : List Symbol) (text : String)
    (column : Nat) :
    (symbolsDoc (s :: rest)).layout width .flat indent (behind text) column =
      s ++ spaced rest ++ text := by
  induction rest generalizing s column with
  | nil => simp [symbolsDoc_singleton, Doc.layout, spaced, behind]
  | cons second rest ih =>
      simp [symbolsDoc_cons_cons, Doc.softline, Doc.layout, ih, spaced, String.append_assoc]

/-- A line end is written where the next symbol has no room on the line. -/
theorem layout_softline (width indent : Nat) (s : Symbol) (rest : List Symbol) (text : Nat → String)
    (column : Nat) :
    Doc.softline.layout width .broken indent
        ⟨(symbolsDoc (s :: rest)).fits width .broken (fun _ => true), text⟩ column =
      if width < column + 1 + s.utf8ByteSize then
        "\n" ++ String.ofList (List.replicate indent ' ') ++ text indent
      else " " ++ text (column + 1) := by
  have hfits : Doc.line.fits width .flat ((symbolsDoc (s :: rest)).fits width .broken fun _ => true)
      column = decide (column + 1 + s.utf8ByteSize ≤ width) := by
    simp only [Doc.fits, fits_symbolsDoc_broken, ← Bool.decide_and, decide_eq_decide]
    omega
  by_cases h : width < column + 1 + s.utf8ByteSize
  · have hbroken : ¬column + 1 + s.utf8ByteSize ≤ width := by omega
    simp [Doc.softline, Doc.layout, Doc.newline, hfits, h, hbroken]
  · have hflat : column + 1 + s.utf8ByteSize ≤ width := by omega
    simp [Doc.softline, Doc.layout, hfits, h, hflat]

theorem layout_symbolsDoc_cons_cons (width indent : Nat) (s second : Symbol) (rest : List Symbol)
    (text : String) (column : Nat) :
    (symbolsDoc (s :: second :: rest)).layout width .broken indent (behind text) column =
      s ++ Doc.softline.layout width .broken indent
        ⟨(symbolsDoc (second :: rest)).fits width .broken (fun _ => true),
          (symbolsDoc (second :: rest)).layout width .broken indent (behind text)⟩
        (column + s.utf8ByteSize) := rfl

/-- **Behind its first symbol the right-hand side is filled greedily**, if the rule is not laid out
flat. The column behind a symbol is the width of its line. -/
theorem layout_symbolsDoc_broken (width i : Nat) (line : Line) (s : Symbol) (rest : List Symbol)
    (text : String) (column : Nat) (hline : line.width = column + s.utf8ByteSize) :
    (symbolsDoc (s :: rest)).layout width .broken 2 (behind text) column =
      s ++ separated (i + 1) ((fill width (i + 1) line rest).zip rest) ++ text := by
  induction rest generalizing i line s column with
  | nil => simp [symbolsDoc_singleton, Doc.layout, separated, behind]
  | cons second rest ih =>
      rw [layout_symbolsDoc_cons_cons, layout_softline, ← hline]
      by_cases h : width < line.width + 1 + second.utf8ByteSize
      · have hrest := ih (i + 1) (line.next (i + 1) second .newline) second 2
          (Line.width_next_newline line (i + 1) second)
        simp [h, hrest, fill, separated, Separator.text, String.append_assoc]
      · have hrest := ih (i + 1) (line.next (i + 1) second .space) second (line.width + 1)
          (Line.width_next_space line (i + 1) second)
        simp [h, hrest, fill, separated, Separator.text, String.append_assoc]

namespace Rule

theorem doc_eq {r : Rule} {s : Symbol} {rest : List Symbol} (h : r.rhs = s :: rest) :
    r.doc = .group (.text r.lhs ++ .text " -->" ++ .softline ++ .nest 2 (symbolsDoc (s :: rest))) := by
  rw [doc, h]
  rfl

/-- A rule as a whole fits if it is not wider than the line. -/
theorem fits_flat_iff {r : Rule} {s : Symbol} {rest : List Symbol} (h : r.rhs = s :: rest)
    (width : Nat) :
    (Doc.text r.lhs ++ .text " -->" ++ .softline ++ .nest 2 (symbolsDoc (s :: rest))).fits width .flat
      (fun _ => true) 0 = decide (r.display.utf8ByteSize ≤ width) := by
  simp only [Doc.fits_append, Doc.fits, Doc.softline, fits_symbolsDoc_flat, ← Bool.decide_and,
    decide_eq_decide, display_eq, head, h, spaced, String.utf8ByteSize_append, utf8ByteSize_space]
  omega

/-- **A rule is laid out as a greedy fill**, whatever is written behind it. -/
theorem layout_doc (width : Nat) (r : Rule) (text : String) :
    r.doc.layout width .broken 0 (behind text) 0 = r.head ++ separated 0 (r.filled width) ++ text := by
  obtain ⟨s, rest, hrhs⟩ := List.exists_cons_of_ne_nil r.rhs_ne_nil
  rw [doc_eq hrhs, Doc.layout, fits_behind, fits_flat_iff hrhs]
  by_cases h : r.display.utf8ByteSize ≤ width
  · -- laid out flat, all symbols are on the line of the head
    have hfilled : separated 0 (r.filled width) = spaced r.rhs := by
      rw [filled, separators_eq_spaces h, separated_spaces]
    simp [h, Doc.layout, Doc.softline, layout_symbolsDoc_flat, hfilled, hrhs, head, spaced,
      String.append_assoc]
  · -- otherwise the first symbol looks for room behind the head, and the others behind it
    have hhead : (Doc.text r.lhs ++ .text " -->" ++ .softline ++
        .nest 2 (symbolsDoc (s :: rest))).layout width .broken 0 (behind text) 0 =
          r.lhs ++ (" -->" ++ Doc.softline.layout width .broken 0
            ⟨(symbolsDoc (s :: rest)).fits width .broken (fun _ => true),
              (symbolsDoc (s :: rest)).layout width .broken 2 (behind text)⟩
            (0 + r.lhs.utf8ByteSize + " -->".utf8ByteSize)) := rfl
    have hcolumn : 0 + r.lhs.utf8ByteSize + " -->".utf8ByteSize = r.headLine.width := by
      simp [width_headLine, head]
    rw [if_neg (by simpa using h), hhead, hcolumn, layout_softline, filled, separators, hrhs]
    by_cases hroom : width < r.headLine.width + 1 + s.utf8ByteSize
    · have hrest := layout_symbolsDoc_broken width 0 (r.headLine.next 0 s .newline) s rest text 0
        (Line.width_next_newline r.headLine 0 s)
      simp [hroom, hrest, fill, separated, Separator.text, head, String.append_assoc]
    · have hrest := layout_symbolsDoc_broken width 0 (r.headLine.next 0 s .space) s rest text
        (r.headLine.width + 1) (Line.width_next_space r.headLine 0 s)
      simp [hroom, hrest, fill, separated, Separator.text, head, String.append_assoc]

/-- **A rule is rendered as a greedy fill.** -/
theorem render_eq_filled (width : Nat) (r : Rule) :
    r.render width = r.head ++ separated 0 (r.filled width) := by
  have hlayout := r.layout_doc width ""
  rwa [String.append_empty] at hlayout

end Rule

/-! ## The layout of a grammar -/

/-- **A grammar is rendered rule by rule**, with a line end between any two. -/
theorem Grammar.render_eq_intercalate (width : Nat) (g : Grammar) :
    g.render width = "\n".intercalate (g.rules.map (Rule.render width)) := by
  have hrules : ∀ rules : List Rule,
      (Doc.join .hardline (rules.map Rule.doc)).layout width .broken 0 (behind "") 0 =
        "\n".intercalate (rules.map (Rule.render width)) := by
    intro rules
    induction rules with
    | nil => rfl
    | cons r rest ih =>
        cases rest with
        | nil => simp [Doc.join, Rule.layout_doc, Rule.render_eq_filled]
        | cons second rest =>
            have hfirst : (Doc.join .hardline ((r :: second :: rest).map Rule.doc)).layout width
                .broken 0 (behind "") 0 =
                  r.doc.layout width .broken 0 (behind ("\n" ++ "" ++
                    (Doc.join .hardline ((second :: rest).map Rule.doc)).layout width .broken 0
                      (behind "") 0)) 0 := rfl
            have hne : (second :: rest).map (Rule.render width) ≠ [] := by simp
            rw [hfirst, ih, Rule.layout_doc, ← Rule.render_eq_filled, String.append_empty,
              List.map_cons (a := r), String.intercalate_cons_of_ne_nil hne, String.append_assoc]
  exact hrules g.rules

/-! ## The greedy fill -/

/-- **A rule is written as a greedy fill of lines of the given width, and a grammar rule by rule.**
Behind the head of the rule each symbol has a space or a line end in front of it. It is a line end
exactly if the current line, its indentation included, would become wider than the width by a space
and the symbol. So the rule is on one line exactly if its printed form is no wider than that, and a
line that is wider has nothing behind its first piece, which is the head or a symbol. -/
theorem render_greedy (width : Nat) :
    (∀ r : Rule, (r.separators width).length = r.rhs.length ∧
      r.render width = r.head ++ separated 0 (r.filled width) ∧
      (∀ i s, r.rhs[i]? = some s → ((r.separators width)[i]? = some .newline ↔
        width < (lastLine 0 r.headLine ((r.filled width).take i)).width + 1 + s.utf8ByteSize)) ∧
      ((∀ separator ∈ r.separators width, separator = .space) ↔ r.display.utf8ByteSize ≤ width) ∧
      r.render width = "\n".intercalate ((lines 0 r.headLine (r.filled width)).map Line.text) ∧
      ∀ line ∈ lines 0 r.headLine (r.filled width), width < line.width →
        line.rest = [] ∧ (line.first = r.head ∨ line.first ∈ r.rhs)) ∧
    ∀ g : Grammar, g.render width = "\n".intercalate (g.rules.map (Rule.render width)) := by
  refine ⟨fun r => ?_, Grammar.render_eq_intercalate width⟩
  refine ⟨r.length_separators width, r.render_eq_filled width, fun i s hs => ?_,
    Rule.separators_all_spaces_iff, ?_, fun line hline hwide => ?_⟩
  · exact getElem?_fill_eq_newline_iff width 0 r.headLine hs
  · rw [intercalate_lines, r.render_eq_filled]
    simp [Rule.headLine, Line.text, spaced]
  · exact ⟨mem_lines_fill (fun _ => rfl) hline hwide, first_of_mem_lines hline⟩

end ChartParsing
