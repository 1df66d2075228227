import Mathlib.Data.List.Basic
import ChartParsing.Edge
import ChartParsing.Proofs.EdgeOrder
import ChartParsing.Proofs.JoinedText

/-!
# A printed edge tells which edge it is

An edge is printed without quotes, so it can be read back only if no symbol has a space in it and no
symbol of the right-hand side is the dot itself. With that its span is read from the digits, and all
else from the pieces between the spaces (`Edge.display_injective`). A rule is printed as such pieces
only (`Rule.display_injective`).

Main theorem: `display_unambiguous`.
-/

set_option autoImplicit false

namespace ChartParsing

namespace Edge

/-- **The symbols of an edge can be told apart in its printed form.** -/
structure Legible (e : Edge) : Prop where
  /-- A space ends a symbol. -/
  no_space : ∀ s ∈ e.lhs :: e.rhs, ' ' ∉ s.toList
  /-- A dot on the right says how far the edge has come. -/
  no_dot : "." ∉ e.rhs

instance (e : Edge) : Decidable e.Legible :=
  decidable_of_iff ((∀ s ∈ e.lhs :: e.rhs, ' ' ∉ s.toList) ∧ "." ∉ e.rhs)
    ⟨fun h => ⟨h.1, h.2⟩, fun h => ⟨h.1, h.2⟩⟩

/-- The right-hand side with a dot behind the symbols that were recognized. -/
def marked (e : Edge) : List Symbol := e.rhs.take e.dot ++ "." :: e.rhs.drop e.dot

theorem dotted_eq_spaced {dot : Nat} {symbols : List Symbol} (h : dot ≤ symbols.length) :
    dotted dot symbols = spaced (symbols.take dot ++ "." :: symbols.drop dot) := by
  induction symbols generalizing dot with
  | nil =>
      obtain rfl : dot = 0 := Nat.le_zero.mp h
      rfl
  | cons s rest ih =>
      cases dot with
      | zero => rfl
      | succ dot =>
          rw [dotted, ih (Nat.le_of_succ_le_succ h)]
          rfl

/-- The printed form of an edge: its span, and pieces behind spaces. -/
theorem display_eq_spaced (e : Edge) :
    e.display = "[" ++ (toString e.start ++ ("-" ++ (toString e.stop ++
      (": " ++ (e.lhs ++ spaced ("-->" :: e.marked) ++ "]"))))) := by
  have harrow : " -->" = " " ++ "-->" := rfl
  rw [display, dotted_eq_spaced e.dot_le_length, marked, spaced, harrow]
  simp only [String.append_assoc]

/-- The pieces behind the left-hand side are the symbols of the right-hand side, the arrow and the
mark. -/
theorem notMem_pieces {e : Edge} {c : Char} (harrow : c ∉ "-->".toList) (hmark : c ∉ ".".toList)
    (h : ∀ s ∈ e.rhs, c ∉ s.toList) : ∀ s ∈ "-->" :: e.marked, c ∉ s.toList := by
  intro s hs
  rcases List.mem_cons.mp hs with rfl | hs
  · exact harrow
  rcases List.mem_append.mp hs with hs | hs
  · exact h s (List.mem_of_mem_take hs)
  rcases List.mem_cons.mp hs with rfl | hs
  · exact hmark
  · exact h s (List.mem_of_mem_drop hs)

/-- The mark tells what was recognized and what was not, if no symbol looks like it. -/
theorem eq_of_marked_eq {e f : Edge} (hdot : "." ∉ e.rhs) (h : e.marked = f.marked) :
    e.rhs = f.rhs ∧ e.dot = f.dot := by
  obtain ⟨hbefore, -, hbehind⟩ := (List.append_cons_inj_of_notMem
    (fun hs => hdot (List.mem_of_mem_take hs)) (fun hs => hdot (List.mem_of_mem_drop hs))).mp h
  have hlength := congrArg List.length hbefore
  rw [List.length_take_of_le e.dot_le_length, List.length_take_of_le f.dot_le_length] at hlength
  refine ⟨?_, hlength⟩
  rw [← List.take_append_drop e.dot e.rhs, hbefore, hbehind, List.take_append_drop]

theorem Legible.no_space_pieces {e : Edge} (h : e.Legible) :
    ∀ s ∈ e.lhs :: "-->" :: e.marked, ' ' ∉ s.toList := by
  obtain ⟨hlhs, hrhs⟩ := List.forall_mem_cons.mp h.no_space
  exact List.forall_mem_cons.mpr ⟨hlhs, notMem_pieces (by decide) (by decide) hrhs⟩

/-- **Equal printed forms are those of the same edge.** -/
theorem display_injective {e f : Edge} (he : e.Legible) (hf : f.Legible)
    (h : e.display = f.display) : e = f := by
  rw [display_eq_spaced, display_eq_spaced, String.append_right_inj] at h
  -- each of the two numbers ends at a character that is no digit
  obtain ⟨hstart, h⟩ := number_append_inj (by simp) (by simp) h
  rw [String.append_right_inj] at h
  obtain ⟨hstop, h⟩ := number_append_inj (by simp) (by simp) h
  rw [String.append_right_inj, String.append_left_inj] at h
  -- what is left are pieces between spaces, the first of which is the left-hand side
  obtain ⟨hlhs, hpieces⟩ := append_spaced_inj he.no_space_pieces hf.no_space_pieces h
  obtain ⟨hrhs, hdot⟩ := eq_of_marked_eq he.no_dot (List.cons.inj hpieces).2
  exact Edge.ext hstart hstop hlhs hrhs hdot

/-- An edge is printed on one line if its symbols are. -/
theorem newline_notMem_display {e : Edge} (h : ∀ s ∈ e.lhs :: e.rhs, '\n' ∉ s.toList) :
    '\n' ∉ e.display.toList := by
  obtain ⟨hlhs, hrhs⟩ := List.forall_mem_cons.mp h
  have hstart : '\n' ∉ (toString e.start).toList := notMem_toString (by decide) _
  have hstop : '\n' ∉ (toString e.stop).toList := notMem_toString (by decide) _
  have hpieces : '\n' ∉ (spaced ("-->" :: e.marked)).toList :=
    notMem_toList_spaced (by decide) (notMem_pieces (by decide) (by decide) hrhs)
  simp only [display_eq_spaced, String.toList_append, List.mem_append, not_or]
  exact ⟨by decide, hstart, by decide, hstop, by decide, ⟨hlhs, hpieces⟩, by decide⟩

end Edge

/-! ## Rules -/

namespace Rule

/-- **The symbols of a rule can be told apart in its printed form.** -/
def Legible (r : Rule) : Prop := ∀ s ∈ r.lhs :: r.rhs, ' ' ∉ s.toList

instance (r : Rule) : Decidable r.Legible :=
  inferInstanceAs (Decidable (∀ s ∈ r.lhs :: r.rhs, ' ' ∉ s.toList))

theorem display_eq_append_spaced (r : Rule) : r.display = r.lhs ++ spaced ("-->" :: r.rhs) := by
  have harrow : " -->" = " " ++ "-->" := rfl
  rw [display, spaced, harrow, String.append_assoc]

theorem Legible.no_space_pieces {r : Rule} (h : r.Legible) :
    ∀ s ∈ r.lhs :: "-->" :: r.rhs, ' ' ∉ s.toList := by
  obtain ⟨hlhs, hrhs⟩ := List.forall_mem_cons.mp h
  exact List.forall_mem_cons.mpr ⟨hlhs, List.forall_mem_cons.mpr ⟨by decide, hrhs⟩⟩

/-- **Equal printed forms are those of the same rule.** -/
theorem display_injective {r t : Rule} (hr : r.Legible) (ht : t.Legible)
    (h : r.display = t.display) : r = t := by
  rw [display_eq_append_spaced, display_eq_append_spaced] at h
  obtain ⟨hlhs, hpieces⟩ := append_spaced_inj hr.no_space_pieces ht.no_space_pieces h
  obtain ⟨-, hrhs⟩ := List.cons.inj hpieces
  cases r
  cases t
  cases hlhs
  cases hrhs
  rfl

end Rule

/-! ## Edges with values, and rules -/

/-- **Printed edges and rules are unambiguous.** Edges whose symbols have no spaces, and no dot among
those on the right, are printed alike exactly if they are equal, whatever values they carry; and so
are rules whose symbols have no spaces. -/
theorem display_unambiguous {α : Type} :
    (∀ a b : Annotated α, a.edge.Legible → b.edge.Legible →
      (a.display = b.display ↔ (a == b) = true)) ∧
    ∀ r t : Rule, r.Legible → t.Legible → (r.display = t.display ↔ r = t) := by
  constructor
  · intro a b ha hb
    rw [Annotated.beq_iff]
    exact ⟨Edge.display_injective ha hb, congrArg Edge.display⟩
  · intro r t hr ht
    exact ⟨Rule.display_injective hr ht, congrArg Rule.display⟩

/-- Symbols that look like the marks around them, and one without any character. A value is not
printed, but the place of the dot is, and so is where the empty symbol stands. -/
theorem display_unambiguous_lookalikes :
    let e : Edge := ⟨0, 1, "0-1:", ["-->", "", "]", "a.b"], 2, by decide, by decide⟩
    let f : Edge := ⟨0, 1, "0-1:", ["-->", "", "]", "a.b"], 3, by decide, by decide⟩
    let valued : Annotated Nat := ⟨e, ⟨some 7⟩⟩
    let r := Rule.of "" "-->" [""]
    let t := Rule.of "" "" ["-->"]
    e.Legible ∧ f.Legible ∧ r.Legible ∧ t.Legible ∧
      valued.display = (Annotated.plain e : Annotated Nat).display ∧ (valued == .plain e) = true ∧
      valued.display ≠ (Annotated.plain f : Annotated Nat).display ∧ r.display ≠ t.display := by
  intro e f valued r t
  have he : e.Legible := by decide +kernel
  have hf : f.Legible := by decide +kernel
  have hr : r.Legible := by decide +kernel
  have ht : t.Legible := by decide +kernel
  obtain ⟨hedges, hrules⟩ := @display_unambiguous Nat
  refine ⟨he, hf, hr, ht, rfl, (hedges valued (.plain e) he he).mp rfl, ?_, ?_⟩
  · intro h
    have hef : e = f := Annotated.beq_iff.mp ((hedges valued (.plain f) he hf).mp h)
    exact absurd (congrArg Edge.dot hef) (by decide)
  · intro h
    exact absurd ((hrules r t hr ht).mp h) (by decide)

/-- A symbol that is the dot hides how far an edge has come. -/
example : (⟨0, 1, "A", ["."], 0, by decide, by decide⟩ : Edge).display =
    (⟨0, 1, "A", ["."], 1, by decide, by decide⟩ : Edge).display := rfl

end ChartParsing
