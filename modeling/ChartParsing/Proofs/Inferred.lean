import ChartParsing.Edge
import ChartParsing.Proofs.Derivation

/-!
# The edges that follow from an input

`Inferred` is the deductive system behind the chart: tokens give lexical edges, and the two
rules of inference lead from passive edges to further ones. It says nothing of positions
that are worked off one after the other, or of an agenda. `Edge.Holds` says what an edge
means: it is the lexical edge of a token, or the part of its rule before the dot yields the
tokens below it.

Main lemmas: `inferred_iff_holds`, and for the constituents `exists_inferred_iff`.
-/

set_option autoImplicit false

namespace ChartParsing

/-- **The edges that follow from the tokens of an input.** -/
inductive Inferred (g : Grammar) (input : List Symbol) : Edge → Prop
  | token {i : Nat} {t : Symbol} (ht : input[i]? = some t) : Inferred g input (.lexical i t)
  | predict {e f : Edge} {r : Rule} (he : Inferred g input e) (hpassive : e.isPassive = true)
      (hr : r ∈ g.rules) (hfirst : r.first = e.lhs)
      (hf : Edge.predicted e.start e.stop r = .ok f) : Inferred g input f
  | complete {e w f : Edge} (he : Inferred g input e) (hpassive : e.isPassive = true)
      (hw : Inferred g input w) (hjoin : w.stop = e.start) (hnext : w.next? = some e.lhs)
      (hf : w.advance e.stop = .ok f) : Inferred g input f

/-! ## What an edge means -/

namespace Edge

/-- The edge is the lexical edge of a token of the input. -/
def IsToken (input : List Symbol) (e : Edge) : Prop :=
  ∃ t, input[e.start]? = some t ∧ e = .lexical e.start t

/-- **A rule is recognized up to the dot**: the symbols before the dot, at least one, yield the
tokens of a span that is not empty. -/
structure IsPartial (g : Grammar) (input : List Symbol) (e : Edge) : Prop where
  rule_mem : ∃ r ∈ g.rules, r.lhs = e.lhs ∧ r.rhs = e.rhs
  dot_pos : 1 ≤ e.dot
  start_lt_stop : e.start < e.stop
  stop_le_length : e.stop ≤ input.length
  yields : g.Yields (e.rhs.take e.dot) (window input e.start e.stop)

/-- **What the edge says is so.** -/
def Holds (g : Grammar) (input : List Symbol) (e : Edge) : Prop :=
  e.IsToken input ∨ e.IsPartial g input

variable {g : Grammar} {input : List Symbol} {e : Edge}

/-- The parts of the lexical edge of a token. -/
theorem isToken_iff :
    e.IsToken input ↔ input[e.start]? = some e.lhs ∧ e.stop = e.start + 1 ∧ e.rhs = [] ∧ e.dot = 0 := by
  constructor
  · rintro ⟨t, ht, he⟩
    have hlhs : e.lhs = t := congrArg lhs he
    rw [hlhs]
    exact ⟨ht, congrArg stop he, congrArg rhs he, congrArg dot he⟩
  · rintro ⟨ht, hstop, hrhs, hdot⟩
    exact ⟨e.lhs, ht, Edge.ext rfl hstop rfl hrhs hdot⟩

theorem IsToken.isPassive (h : e.IsToken input) : e.isPassive = true := by
  obtain ⟨-, -, hrhs, hdot⟩ := isToken_iff.mp h
  rw [isPassive_iff, hrhs, hdot]
  rfl

theorem Holds.span (h : e.Holds g input) : e.start < e.stop ∧ e.stop ≤ input.length := by
  rcases h with h | h
  · obtain ⟨ht, hstop, -⟩ := isToken_iff.mp h
    have hlength := (List.getElem?_eq_some_iff.mp ht).1
    omega
  · exact ⟨h.start_lt_stop, h.stop_le_length⟩

/-- **A passive edge that holds is a constituent**: its symbol yields the tokens of its span. -/
theorem Holds.yields_lhs (h : e.Holds g input) (hpassive : e.isPassive = true) :
    g.Yields [e.lhs] (window input e.start e.stop) := by
  rcases h with h | h
  · obtain ⟨ht, hstop, -⟩ := isToken_iff.mp h
    rw [hstop, window_token ht]
    exact .keep e.lhs .nil
  · obtain ⟨r, hr, hlhs, hrhs⟩ := h.rule_mem
    have hall := h.yields
    rw [isPassive_iff.mp hpassive, List.take_length, ← hrhs] at hall
    rw [← hlhs]
    exact .of_rule hr hall

/-- The part before the dot, once the symbol at the dot is recognized as well. -/
theorem take_dot_succ {s : Symbol} (h : e.next? = some s) :
    e.rhs.take (e.dot + 1) = e.rhs.take e.dot ++ [s] := by
  rw [List.take_add_one, show e.rhs[e.dot]? = some s from h]
  rfl

end Edge

variable {g : Grammar} {input : List Symbol}

/-! ## Soundness -/

/-- **Every inferred edge holds.** -/
theorem Inferred.holds {e : Edge} (h : Inferred g input e) : e.Holds g input := by
  induction h with
  | token ht => exact Or.inl ⟨_, ht, rfl⟩
  | @predict e f r _ hpassive hr hfirst hf ih =>
      obtain ⟨hstart, hstop, hlhs, hrhs, hdot⟩ := Edge.predicted_eq_ok_iff.mp hf
      have hspan := ih.span
      refine Or.inr ⟨⟨r, hr, hlhs.symm, hrhs.symm⟩, by omega, by omega, by omega, ?_⟩
      rw [hrhs, hdot, r.take_one_rhs, hfirst, hstart, hstop]
      exact ih.yields_lhs hpassive
  | @complete e w f _ hpassive _ hjoin hnext hf ih ihw =>
      obtain ⟨hactive, hstart, hstop, hlhs, hrhs, hdot⟩ := Edge.advance_eq_ok_iff.mp hf
      have hspan := ih.span
      rcases ihw with hw | hw
      · -- a lexical edge expects nothing
        rw [Edge.next?_eq_none_iff.mpr hw.isPassive] at hnext
        cases hnext
      · have hwspan := hw.start_lt_stop
        have hfront := hw.yields
        have hjoined : window input w.start e.start ++ window input e.start e.stop =
            window input w.start e.stop := window_append input (by omega) (by omega)
        obtain ⟨r, hr, hrl, hrr⟩ := hw.rule_mem
        refine Or.inr ⟨⟨r, hr, hrl.trans hlhs.symm, hrr.trans hrhs.symm⟩,
          by omega, by omega, by omega, ?_⟩
        rw [hrhs, hdot, Edge.take_dot_succ hnext, hstart, hstop, ← hjoined]
        rw [hjoin] at hfront
        exact hfront.append (ih.yields_lhs hpassive)

/-! ## Completeness

The induction runs over what a rule yields, for all places of the dot at once: a rule that is
recognized up to some symbols is recognized behind them as well. Before its first symbol a
rule is recognized everywhere, though no edge of the chart says so. -/

/-- The first `dot` symbols of the rule are recognized from `start` to `stop`. -/
def Ready (g : Grammar) (input : List Symbol) (r : Rule) (dot start stop : Nat) : Prop :=
  (dot = 0 ∧ start = stop) ∨
    ∃ e, Inferred g input e ∧ e.start = start ∧ e.stop = stop ∧ e.lhs = r.lhs ∧ e.rhs = r.rhs ∧
      e.dot = dot

/-- **A constituent for the symbol at the dot moves the dot behind it.** -/
theorem Ready.step {r : Rule} {dot start : Nat} {e : Edge} (hr : r ∈ g.rules)
    (h : Ready g input r dot start e.start) (hnext : r.rhs[dot]? = some e.lhs)
    (he : Inferred g input e) (hpassive : e.isPassive = true) :
    Ready g input r (dot + 1) start e.stop := by
  have hspan := he.holds.span
  rcases h with ⟨rfl, rfl⟩ | ⟨w, hw, hstart, hstop, hlhs, hrhs, hdot⟩
  · have hfirst : r.first = e.lhs := by
      have hhead := r.rhs_zero
      rw [hhead] at hnext
      exact Option.some.inj hnext
    obtain ⟨f, hf⟩ := Edge.exists_predicted (Nat.le_of_lt hspan.1) r
    exact Or.inr ⟨f, .predict he hpassive hr hfirst hf, Edge.predicted_eq_ok_iff.mp hf⟩
  · have hwnext : w.next? = some e.lhs := by rw [Edge.next?, hrhs, hdot, hnext]
    have hactive : w.isActive = true := by
      rw [Edge.isActive_iff, hrhs, hdot]
      exact (List.getElem?_eq_some_iff.mp hnext).1
    have hwspan := hw.holds.span
    obtain ⟨f, hf⟩ := Edge.exists_advance hactive (show w.start ≤ e.stop by omega)
    obtain ⟨-, hfstart, hfstop, hflhs, hfrhs, hfdot⟩ := Edge.advance_eq_ok_iff.mp hf
    exact Or.inr ⟨f, .complete he hpassive hw hstop hwnext hf, hfstart.trans hstart, hfstop,
      hflhs.trans hlhs, hfrhs.trans hrhs, by omega⟩

/-- A rule that is recognized to its end is a constituent. -/
theorem Ready.exists_passive {r : Rule} {start stop : Nat}
    (h : Ready g input r r.rhs.length start stop) :
    ∃ e, Inferred g input e ∧ e.isPassive = true ∧ e.lhs = r.lhs ∧ e.start = start ∧
      e.stop = stop := by
  rcases h with ⟨hzero, -⟩ | ⟨e, he, hstart, hstop, hlhs, hrhs, hdot⟩
  · exact absurd (List.length_eq_zero_iff.mp hzero) r.rhs_ne_nil
  · exact ⟨e, he, Edge.isPassive_iff.mpr (by rw [hdot, hrhs]), hlhs, hstart, hstop⟩

theorem cons_prefix_drop {α : Type} {x : α} {xs l : List α} {n : Nat} (h : x :: xs <+: l.drop n) :
    l[n]? = some x ∧ xs <+: l.drop (n + 1) := by
  obtain ⟨rest, hrest⟩ := h
  have hn : n < l.length := by
    have := congrArg List.length hrest
    rw [List.length_append, List.length_cons, List.length_drop] at this
    omega
  rw [List.drop_eq_getElem_cons hn, List.cons_append] at hrest
  injection hrest with hhead htail
  exact ⟨by rw [List.getElem?_eq_getElem hn, hhead], ⟨rest, htail⟩⟩

theorem append_prefix_drop {α : Type} {xs ys l : List α} {n : Nat} (h : xs ++ ys <+: l.drop n) :
    xs <+: l.drop n ∧ ys <+: l.drop (n + xs.length) := by
  obtain ⟨rest, hrest⟩ := h
  rw [List.append_assoc] at hrest
  refine ⟨⟨ys ++ rest, hrest⟩, ⟨rest, ?_⟩⟩
  rw [← List.drop_drop, ← hrest, List.drop_left]

/-- **A rule is recognized behind the symbols that yield the tokens in front of it.** -/
theorem Ready.yields {symbols tokens : List Symbol} (h : g.Yields symbols tokens) :
    ∀ {r : Rule} {dot start stop : Nat}, r ∈ g.rules → Ready g input r dot start stop →
      symbols <+: r.rhs.drop dot → tokens <+: input.drop stop →
      Ready g input r (dot + symbols.length) start (stop + tokens.length) := by
  induction h with
  | nil =>
      intro r dot start stop _ hready _ _
      exact hready
  | @keep t symbols tokens _ ih =>
      -- the token is kept: its lexical edge is the constituent at the dot
      intro r dot start stop hr hready hsymbols htokens
      obtain ⟨hnext, hsymbols⟩ := cons_prefix_drop hsymbols
      obtain ⟨ht, htokens⟩ := cons_prefix_drop htokens
      have hbehind : Ready g input r (dot + 1) start (stop + 1) :=
        Ready.step (e := .lexical stop t) hr hready hnext (.token ht) rfl
      have := ih hr hbehind hsymbols htokens
      rwa [Nat.add_assoc, Nat.add_comm 1, Nat.add_assoc, Nat.add_comm 1] at this
  | @expand q symbols part tokens hq _ _ ihInner ihRest =>
      -- the symbol is expanded: its rule is recognized from the start, over the tokens of its own
      intro r dot start stop hr hready hsymbols htokens
      obtain ⟨hnext, hsymbols⟩ := cons_prefix_drop hsymbols
      obtain ⟨hpart, htokens⟩ := append_prefix_drop htokens
      have hinner : Ready g input q (0 + q.rhs.length) stop (stop + part.length) :=
        ihInner hq (Or.inl ⟨rfl, rfl⟩) (List.prefix_refl _) hpart
      rw [Nat.zero_add] at hinner
      obtain ⟨e, he, hpassive, hlhs, hstart, hstop⟩ := hinner.exists_passive
      have hbehind : Ready g input r (dot + 1) start e.stop := by
        refine Ready.step hr ?_ ?_ he hpassive
        · rw [hstart]
          exact hready
        · rw [hlhs]
          exact hnext
      rw [hstop] at hbehind
      have := ihRest hr hbehind hsymbols htokens
      rwa [Nat.add_assoc dot, Nat.add_comm 1, Nat.add_assoc stop, ← List.length_append] at this

/-- **Every edge that holds is inferred.** -/
theorem Edge.Holds.inferred {e : Edge} (h : e.Holds g input) : Inferred g input e := by
  rcases h with ⟨t, ht, he⟩ | h
  · rw [he]
    exact .token ht
  · obtain ⟨r, hr, hlhs, hrhs⟩ := h.rule_mem
    have hspan := h.start_lt_stop
    have hsymbols : e.rhs.take e.dot <+: r.rhs.drop 0 := by
      rw [List.drop_zero, hrhs]
      exact List.take_prefix _ _
    have hready : Ready g input r 0 e.start e.start := Or.inl ⟨rfl, rfl⟩
    have hend := Ready.yields h.yields hr hready hsymbols (window_prefix_drop input e.start e.stop)
    rw [List.length_take_of_le e.dot_le_length, length_window h.stop_le_length, Nat.zero_add,
      Nat.add_sub_cancel' (Nat.le_of_lt hspan)] at hend
    rcases hend with ⟨hzero, -⟩ | ⟨f, hf, hfstart, hfstop, hflhs, hfrhs, hfdot⟩
    · have := h.dot_pos
      omega
    · have hfe : f = e :=
        Edge.ext hfstart hfstop (hflhs.trans hlhs) (hfrhs.trans hrhs) hfdot
      rw [← hfe]
      exact hf

/-- **Exactly the edges that hold are inferred.** -/
theorem inferred_iff_holds {e : Edge} : Inferred g input e ↔ e.Holds g input :=
  ⟨Inferred.holds, Edge.Holds.inferred⟩

/-! ## Constituents -/

/-- **There is a constituent for a symbol exactly where the symbol derives the tokens.** -/
theorem exists_inferred_iff {s : Symbol} {i j : Nat} :
    (∃ e, Inferred g input e ∧ e.isPassive = true ∧ e.lhs = s ∧ e.start = i ∧ e.stop = j) ↔
      i < j ∧ j ≤ input.length ∧ g.Derives [s] (window input i j) := by
  rw [Grammar.derives_iff_yields]
  constructor
  · rintro ⟨e, he, hpassive, rfl, rfl, rfl⟩
    have hspan := he.holds.span
    exact ⟨hspan.1, hspan.2, he.holds.yields_lhs hpassive⟩
  · rintro ⟨hij, hj, hyields⟩
    have hlength := length_window (i := i) hj
    have hprefix := window_prefix_drop input i j
    generalize window input i j = tokens at hyields hlength hprefix
    cases hyields with
    | keep _ rest =>
        cases rest
        have hstop : j = i + 1 := by
          rw [List.length_singleton] at hlength
          omega
        obtain ⟨ht, -⟩ := cons_prefix_drop hprefix
        exact ⟨.lexical i s, .token ht, rfl, rfl, rfl, hstop.symm⟩
    | @expand r _ part _ hr inner rest =>
        cases rest
        rw [List.append_nil] at hlength hprefix
        have hready := Ready.yields inner hr (Or.inl ⟨rfl, rfl⟩) (List.prefix_refl _) hprefix
        rw [Nat.zero_add, hlength, Nat.add_sub_cancel' (Nat.le_of_lt hij)] at hready
        obtain ⟨e, he, hpassive, hlhs, hstart, hstop⟩ := hready.exists_passive
        exact ⟨e, he, hpassive, hlhs, hstart, hstop⟩

end ChartParsing
