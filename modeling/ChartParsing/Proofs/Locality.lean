import ChartParsing.Proofs.Contents

/-!
# Recognition is local

What is recognized between two positions of an input depends on the tokens between them only.
The edges that start behind the first position and end before the second are those of a
recognition of these tokens alone, with the positions counted from the first.

Main lemma: `inferred_window_iff`, an edge is inferred from the tokens of a window exactly if
it is inferred from the whole input. Main theorem: `recognition_local`, for all edge sets that
are reported and for the chart.
-/

set_option autoImplicit false

namespace ChartParsing

/-! ## Windows of windows -/

/-- The tokens of a window are those of the input, counted from its start. -/
theorem getElem?_window (input : List Symbol) {i j k : Nat} (hk : i + k < j) :
    (window input i j)[k]? = input[i + k]? := by
  rw [window, List.getElem?_take_of_lt (by omega), List.getElem?_drop]

/-- A window of a window is a window of the input. -/
theorem window_window (input : List Symbol) {i j a b : Nat} (hia : i ≤ a) (hbj : b ≤ j) :
    window (window input i j) (a - i) (b - i) = window input a b := by
  have hdrop : i + (a - i) = a := by omega
  have htake : min (b - i - (a - i)) (j - i - (a - i)) = b - a := by omega
  calc window (window input i j) (a - i) (b - i)
      = (((input.drop i).take (j - i)).drop (a - i)).take (b - i - (a - i)) := rfl
    _ = ((input.drop (i + (a - i))).take (j - i - (a - i))).take (b - i - (a - i)) := by
        rw [List.drop_take, List.drop_drop]
    _ = window input a b := by rw [List.take_take, hdrop, htake, window]

/-! ## Positions counted from elsewhere -/

namespace Edge

/-- The edge with its positions counted from `origin`. -/
def countedFrom (origin : Nat) (e : Edge) : Edge :=
  ⟨e.start - origin, e.stop - origin, e.lhs, e.rhs, e.dot,
    Nat.sub_le_sub_right e.start_le_stop origin, e.dot_le_length⟩

/-- Every edge is what an edge behind `origin` is counted as. -/
theorem exists_countedFrom (origin : Nat) (e : Edge) :
    ∃ f : Edge, origin ≤ f.start ∧ f.stop = origin + e.stop ∧ f.countedFrom origin = e := by
  refine ⟨⟨origin + e.start, origin + e.stop, e.lhs, e.rhs, e.dot,
    Nat.add_le_add_left e.start_le_stop origin, e.dot_le_length⟩, Nat.le_add_right _ _, rfl, ?_⟩
  apply Edge.ext
  · exact Nat.add_sub_cancel_left _ _
  · exact Nat.add_sub_cancel_left _ _
  all_goals rfl

end Edge

namespace EdgeSet

/-- **The edges that start at `origin` or behind it**, with their positions counted from there. -/
def countedFrom (origin : Nat) (s : EdgeSet) : EdgeSet :=
  OrderedSet.ofList ((s.toList.filter fun e => origin ≤ e.start).map (Edge.countedFrom origin))

theorem mem_countedFrom {origin : Nat} {s : EdgeSet} {e : Edge} :
    e ∈ countedFrom origin s ↔ ∃ f ∈ s, origin ≤ f.start ∧ f.countedFrom origin = e := by
  rw [countedFrom, OrderedSet.mem_ofList, List.mem_map]
  constructor
  · rintro ⟨f, hf, rfl⟩
    obtain ⟨hf, hstart⟩ := List.mem_filter.mp hf
    exact ⟨f, hf, by simpa using hstart, rfl⟩
  · rintro ⟨f, hf, hstart, rfl⟩
    exact ⟨f, List.mem_filter.mpr ⟨hf, by simpa using hstart⟩, rfl⟩

/-- Passive edges stay passive wherever their positions are counted from. -/
theorem passivePart_countedFrom (origin : Nat) (s : EdgeSet) :
    passivePart (countedFrom origin s) = countedFrom origin (passivePart s) := by
  refine OrderedSet.ext_mem fun e => ?_
  rw [passivePart, OrderedSet.mem_filter, mem_countedFrom, mem_countedFrom]
  constructor
  · rintro ⟨⟨f, hf, hstart, rfl⟩, hpassive⟩
    exact ⟨f, OrderedSet.mem_filter.mpr ⟨hf, hpassive⟩, hstart, rfl⟩
  · rintro ⟨f, hf, hstart, rfl⟩
    obtain ⟨hf, hpassive⟩ := OrderedSet.mem_filter.mp hf
    exact ⟨⟨f, hf, hstart, rfl⟩, hpassive⟩

end EdgeSet

/-! ## Edges inside a window

An edge inside the window says the same of the window as of the input: it covers the same
tokens, and no step of its derivation needs any other. -/

variable {g : Grammar} {input : List Symbol} {i j : Nat} {e : Edge}

theorem isToken_countedFrom_iff (hstart : i ≤ e.start) (hstop : e.stop ≤ j) :
    (e.countedFrom i).IsToken (window input i j) ↔ e.IsToken input := by
  have htoken : e.stop = e.start + 1 →
      (window input i j)[e.start - i]? = input[e.start]? := by
    intro h
    rw [getElem?_window input (by omega), Nat.add_sub_cancel' hstart]
  rw [Edge.isToken_iff, Edge.isToken_iff]
  show (window input i j)[e.start - i]? = some e.lhs ∧ e.stop - i = e.start - i + 1 ∧ _ ↔ _
  constructor
  · rintro ⟨ht, hspan, hrest⟩
    have hspan : e.stop = e.start + 1 := by omega
    exact ⟨(htoken hspan).symm.trans ht, hspan, hrest⟩
  · rintro ⟨ht, hspan, hrest⟩
    exact ⟨(htoken hspan).trans ht, by omega, hrest⟩

theorem isPartial_countedFrom_iff (hstart : i ≤ e.start) (hstop : e.stop ≤ j)
    (hj : j ≤ input.length) :
    (e.countedFrom i).IsPartial g (window input i j) ↔ e.IsPartial g input := by
  have hlength : (window input i j).length = j - i := length_window hj
  have htokens : window (window input i j) (e.start - i) (e.stop - i) =
      window input e.start e.stop := window_window input hstart hstop
  constructor
  · intro h
    have hspan : e.start - i < e.stop - i := h.start_lt_stop
    refine ⟨h.rule_mem, h.dot_pos, by omega, by omega, ?_⟩
    rw [← htokens]
    exact h.yields
  · intro h
    have hspan := h.start_lt_stop
    refine ⟨h.rule_mem, h.dot_pos, ?_, ?_, ?_⟩
    · show e.start - i < e.stop - i
      omega
    · show e.stop - i ≤ (window input i j).length
      omega
    · show g.Yields (e.rhs.take e.dot) (window (window input i j) (e.start - i) (e.stop - i))
      rw [htokens]
      exact h.yields

/-- **An edge inside a window is inferred from the tokens of the window alone.** -/
theorem inferred_window_iff (hstart : i ≤ e.start) (hstop : e.stop ≤ j) (hj : j ≤ input.length) :
    Inferred g (window input i j) (e.countedFrom i) ↔ Inferred g input e := by
  rw [inferred_iff_holds, inferred_iff_holds]
  exact or_congr (isToken_countedFrom_iff hstart hstop)
    (isPartial_countedFrom_iff hstart hstop hj)

/-! ## Full edge sets -/

/-- **The full edge sets of a window are those of the input**, without the edges that start
before the window. -/
theorem fullAt_window (order order' : AgendaOrder) {k : Nat} (hik : i ≤ k) (hkj : k ≤ j) (hj : j ≤ input.length) :
    (recognizeBy .indexed order g (window input i j)).fullAt (k - i) =
      EdgeSet.countedFrom i ((recognizeBy .indexed order' g input).fullAt k) := by
  have hlength : (window input i j).length = j - i := length_window hj
  refine OrderedSet.ext_mem fun e => ?_
  rw [mem_fullAt (by omega), EdgeSet.mem_countedFrom]
  constructor
  · rintro ⟨he, hstop⟩
    -- the edge of the input that is counted as `e`
    obtain ⟨f, hstart, hfstop, rfl⟩ := Edge.exists_countedFrom i e
    have hk : f.stop = k := by omega
    refine ⟨f, (mem_fullAt (by omega)).mpr ⟨?_, hk⟩, hstart, rfl⟩
    exact (inferred_window_iff hstart (by omega) hj).mp he
  · rintro ⟨f, hf, hstart, rfl⟩
    obtain ⟨hf, hstop⟩ := (mem_fullAt (by omega)).mp hf
    refine ⟨(inferred_window_iff hstart (by omega) hj).mpr hf, ?_⟩
    show f.stop - i = k - i
    omega

/-! ## Charts and reports -/

/-- A list that agrees with a part of another, entry by entry. -/
theorem eq_map_take_drop {α β : Type} {f : α → β} {xs : List α} {ys : List β} {n : Nat}
    (hlength : ys.length = n)
    (h : ∀ m < n, ∃ x, xs[i + m]? = some x ∧ ys[m]? = some (f x)) :
    ys = ((xs.drop i).take n).map f := by
  refine List.ext_getElem? fun m => ?_
  by_cases hm : m < n
  · obtain ⟨x, hx, hy⟩ := h m hm
    rw [hy, List.getElem?_map, List.getElem?_take_of_lt hm, List.getElem?_drop, hx]
    rfl
  · have hys : ys.length ≤ m := by omega
    have hpart : (((xs.drop i).take n).map f).length ≤ m := by
      simp only [List.length_map, List.length_take]
      omega
    rw [List.getElem?_eq_none hys, List.getElem?_eq_none hpart]

theorem positions_window (order order' : AgendaOrder) (hij : i ≤ j) (hj : j ≤ input.length) :
    (recognizeBy .indexed order g (window input i j)).positions =
      (((recognizeBy .indexed order' g input).positions.drop i).take (j - i + 1)).map
        (EdgeSet.countedFrom i) := by
  have hlength : (window input i j).length = j - i := length_window hj
  refine eq_map_take_drop ?_ fun m hm => ?_
  · rw [← hlength]
    exact length_chart _
  · refine ⟨_, at?_chart (show i + m ≤ input.length by omega), ?_⟩
    have hposition := at?_chart (r := recognizeBy .indexed order g (window input i j))
      (show m ≤ (window input i j).length by omega)
    have hfull : (recognizeBy .indexed order g (window input i j)).fullAt (i + m - i) = _ :=
      fullAt_window order order' (Nat.le_add_right i m) (by omega) hj
    rw [Nat.add_sub_cancel_left] at hfull
    rw [← EdgeSet.passivePart_countedFrom, ← hfull]
    exact hposition

theorem reported_window (order order' : AgendaOrder) (hij : i ≤ j) (hj : j ≤ input.length) :
    (recognizeBy .indexed order g (window input i j)).reported =
      (((recognizeBy .indexed order' g input).reported.drop i).take (j - i)).map
        fun (position, edges) => (position - i, EdgeSet.countedFrom i edges) := by
  have hlength : (window input i j).length = j - i := length_window hj
  rw [reported_eq, reported_eq, hlength]
  refine eq_map_take_drop (by simp) fun m hm => ?_
  refine ⟨(i + m + 1, (recognizeBy .indexed order' g input).fullAt (i + m + 1)), ?_, ?_⟩
  · rw [List.getElem?_map, List.getElem?_range (by omega)]
    rfl
  · have hfull : (recognizeBy .indexed order g (window input i j)).fullAt (i + m + 1 - i) = _ :=
      fullAt_window order order' (show i ≤ i + m + 1 by omega) (by omega) hj
    have hposition : i + m + 1 - i = m + 1 := by omega
    rw [List.getElem?_map, List.getElem?_range hm]
    show some (m + 1, _) = some (i + m + 1 - i, _)
    rw [← hfull, hposition]

/-- **Tokens outside of a window do not influence what is recognized inside.** The chart of the
tokens from `i` to `j` is that of the whole input from position `i` to position `j`, and the
full edge sets that are reported are those reported for the positions behind `i` up to `j`: in
each of them the edges that start before `i` are left out, and positions are counted from `i`. -/
theorem recognition_local (recognizer recognizer' : Recognizer) (g : Grammar)
    {input : List Symbol} {i j : Nat} (hij : i ≤ j) (hj : j ≤ input.length) :
    (recognizer.recognize g (window input i j)).chart.positions =
        (((recognizer'.recognize g input).chart.positions.drop i).take (j - i + 1)).map
          (EdgeSet.countedFrom i) ∧
      (recognizer.recognize g (window input i j)).reported =
        (((recognizer'.recognize g input).reported.drop i).take (j - i)).map
          fun (position, edges) => (position - i, EdgeSet.countedFrom i edges) :=
  ⟨positions_window _ _ hij hj, reported_window _ _ hij hj⟩

/-- The two tokens in the middle of four, of which a double covers all. -/
theorem recognition_local_doubling :
    (1 ≤ 3 ∧ 3 ≤ (["a", "b", "a", "b"] : List Symbol).length) ∧
      ((Recognizer.mk .queue).recognize doubling ["b", "a"]).chart.positions =
        ((((Recognizer.mk .stack).recognize doubling ["a", "b", "a", "b"]).chart.positions.drop
          1).take 3).map (EdgeSet.countedFrom 1) := by
  have hj : 3 ≤ (["a", "b", "a", "b"] : List Symbol).length := by decide
  refine ⟨⟨by decide, hj⟩, ?_⟩
  exact (recognition_local (.mk .queue) (.mk .stack) doubling (show 1 ≤ 3 by decide) hj).1

end ChartParsing
