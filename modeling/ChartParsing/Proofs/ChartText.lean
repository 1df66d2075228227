import ChartParsing.Proofs.EdgeText
import ChartParsing.Proofs.ViewLines

/-!
# The text of a chart tells its edges

The whole text of a chart is read back line by line. How a line starts tells its kind, the numbers
and the edge on it are read from the rest, and an edge is filed at the index of the heading above it
(`mem_filed_viewLines`). So charts with the same text have the same edges at each position
(`positions_eq_of_render_eq`), as long as no symbol looks like a part of the text.
-/

set_option autoImplicit false

namespace ChartParsing

/-! ## Reading a line -/

namespace ViewLine

/-- The edge on the line, if there is one, can be read. -/
def Legible : ViewLine → Prop
  | edge e => e.Legible
  | _ => True

/-- The number of the kind of a line. -/
def kind : ViewLine → Nat
  | size _ => 0
  | heading _ _ => 1
  | edge _ => 2
  | more => 3

/-- The kind of a line, from how it starts. -/
def kindOf : List Char → Nat
  | 'C' :: _ => 0
  | ' ' :: ' ' :: ' ' :: ' ' :: '[' :: _ => 2
  | ' ' :: _ => 3
  | _ => 1

theorem kindOf_text (line : ViewLine) : kindOf line.text.toList = line.kind := by
  cases line with
  | size total => simp [text, kindOf, kind]
  | heading count index =>
      -- a heading starts with a digit, and no other line does
      obtain ⟨c, rest, hdigits, hdigit⟩ := exists_toList_toString count
      have hletter : c ≠ 'C' := fun hc => by simp [hc] at hdigit
      have hspace : c ≠ ' ' := fun hc => by simp [hc] at hdigit
      simp only [text, String.toList_append, hdigits, List.cons_append]
      simp [kindOf, kind, hletter, hspace]
  | edge e => simp [text, Edge.display_eq_spaced, kindOf, kind]
  | more => rfl

/-- **A line is determined by its text**, if the edge on it can be read. -/
theorem text_injective {a b : ViewLine} (ha : a.Legible) (hb : b.Legible) (h : a.text = b.text) :
    a = b := by
  have hkind : a.kind = b.kind := by rw [← kindOf_text, ← kindOf_text, h]
  match a, b with
  | size total, size total' =>
      simp only [text, String.append_assoc, String.append_right_inj] at h
      rw [(number_append_inj (by simp) (by simp) h).1]
  | heading count index, heading count' index' =>
      simp only [text, String.append_assoc] at h
      obtain ⟨hcount, h⟩ := number_append_inj (by simp) (by simp) h
      rw [String.append_right_inj] at h
      rw [hcount, (number_append_inj (by simp) (by simp) h).1]
  | edge e, edge f =>
      rw [text, text, String.append_right_inj] at h
      rw [Edge.display_injective ha hb h]
  | more, more => rfl
  | size _, heading _ _ | size _, edge _ | size _, more => exact absurd hkind (by simp [kind])
  | heading _ _, size _ | heading _ _, edge _ | heading _ _, more =>
      exact absurd hkind (by simp [kind])
  | edge _, size _ | edge _, heading _ _ | edge _, more => exact absurd hkind (by simp [kind])
  | more, size _ | more, heading _ _ | more, edge _ => exact absurd hkind (by simp [kind])

/-- Lines are determined by their texts. -/
theorem eq_of_map_text_eq {lines others : List ViewLine} (hlines : ∀ line ∈ lines, line.Legible)
    (hothers : ∀ line ∈ others, line.Legible) (h : lines.map text = others.map text) :
    lines = others := by
  induction lines generalizing others with
  | nil => exact (List.map_eq_nil_iff.mp h.symm).symm
  | cons line rest ih =>
      cases others with
      | nil => cases h
      | cons other more =>
          obtain ⟨hline, hrest⟩ := List.forall_mem_cons.mp hlines
          obtain ⟨hother, hmore⟩ := List.forall_mem_cons.mp hothers
          obtain ⟨htext, htexts⟩ := List.cons.inj h
          rw [text_injective hline hother htext, ih hrest hmore htexts]

/-- A line of text is one line, if the edge on it is. -/
theorem newline_notMem_text {line : ViewLine}
    (h : ∀ e, line = edge e → ∀ s ∈ e.lhs :: e.rhs, '\n' ∉ s.toList) : '\n' ∉ line.text.toList := by
  cases line with
  | size total =>
      have htotal : '\n' ∉ (toString total).toList := notMem_toString (by decide) total
      simp only [text, String.toList_append, List.mem_append, not_or]
      exact ⟨⟨by decide, htotal⟩, by decide⟩
  | heading count index =>
      have hcount : '\n' ∉ (toString count).toList := notMem_toString (by decide) count
      have hindex : '\n' ∉ (toString index).toList := notMem_toString (by decide) index
      simp only [text, String.toList_append, List.mem_append, not_or]
      exact ⟨⟨⟨hcount, by decide⟩, hindex⟩, by decide⟩
  | edge e =>
      simp only [text, String.toList_append, List.mem_append, not_or]
      exact ⟨by decide, Edge.newline_notMem_display (h e rfl)⟩
  | more => decide

/-! ## Reading the lines of a chart -/

/-- The edges on lines, each with the index in the last heading above it. -/
def filed : (index : Nat) → List ViewLine → List (Edge × Nat)
  | _, [] => []
  | _, heading _ index :: rest => filed index rest
  | index, edge e :: rest => (e, index) :: filed index rest
  | index, size _ :: rest => filed index rest
  | index, more :: rest => filed index rest

/-- The edges of a position are filed at its index. -/
theorem filed_edges (index : Nat) (edges : List Edge) (rest : List ViewLine) :
    filed index (edges.map edge ++ rest) = edges.map (·, index) ++ filed index rest := by
  induction edges with
  | nil => rfl
  | cons e edges ih => simp [filed, ih]

/-- Positions are read one after the other, whatever stands above them. -/
theorem filed_flatMap (index : Nat) (shown : List (EdgeSet × Nat)) :
    filed index (shown.flatMap fun (edges, k) => ChartView.positionLines {} k edges) =
      shown.flatMap fun (edges, k) => edges.toList.map (·, k) := by
  induction shown generalizing index with
  | nil => rfl
  | cons position rest ih =>
      obtain ⟨edges, k⟩ := position
      have hlines : ChartView.positionLines {} k edges =
          .heading edges.size k :: edges.toList.map .edge :=
        ChartView.positionLines_eq_of_le {} k (Nat.le_refl _)
      rw [List.flatMap_cons, List.flatMap_cons]
      show filed index (ChartView.positionLines {} k edges ++ _) = edges.toList.map (·, k) ++ _
      rw [hlines, List.cons_append, filed, filed_edges, ih]

end ViewLine

namespace Chart

/-- **Every edge is filed at its position**, and nothing else is. -/
theorem mem_filed_viewLines {c : Chart} {e : Edge} {k : Nat} :
    (e, k) ∈ ViewLine.filed 0 (c.viewLines {}) ↔ ∃ edges, c.at? k = some edges ∧ e ∈ edges := by
  rw [viewLines, ViewLine.filed, ViewLine.filed_flatMap, List.mem_flatMap]
  constructor
  · rintro ⟨⟨edges, index⟩, hmem, he⟩
    obtain ⟨f, hf, hpair⟩ := List.mem_map.mp he
    obtain ⟨rfl, rfl⟩ := Prod.mk.inj hpair
    have hposition := List.mem_zipIdx_iff_getElem?.mp (List.mem_filter.mp hmem).1
    exact ⟨edges, hposition, hf⟩
  · rintro ⟨edges, hposition, he⟩
    -- the position is shown, since it has an edge and the view leaves out no other
    have hne : edges.isEmpty = false := List.isEmpty_eq_false_iff.mpr (List.ne_nil_of_mem he)
    refine ⟨(edges, k), List.mem_filter.mpr ⟨List.mem_zipIdx_iff_getElem?.mpr hposition, ?_⟩,
      List.mem_map.mpr ⟨e, he, rfl⟩⟩
    simp [hne, ChartView.selects]

theorem mem_getElem_iff_filed {c : Chart} {k : Nat} (hk : k < c.positions.length) {e : Edge} :
    e ∈ c.positions[k] ↔ (e, k) ∈ ViewLine.filed 0 (c.viewLines {}) := by
  rw [mem_filed_viewLines, at?, List.getElem?_eq_getElem hk]
  simp

/-- **No symbol of the chart looks like a part of its text**: none has a space or a line end in it,
and none on a right-hand side is the dot. -/
def Legible (c : Chart) : Prop :=
  ∀ e ∈ c.edges, e.Legible ∧ ∀ s ∈ e.lhs :: e.rhs, '\n' ∉ s.toList

instance (c : Chart) : Decidable c.Legible :=
  inferInstanceAs (Decidable (∀ e ∈ c.edges, e.Legible ∧ ∀ s ∈ e.lhs :: e.rhs, '\n' ∉ s.toList))

/-- The lines of a chart show only edges of the chart. -/
theorem mem_edges_of_mem_viewLines {c : Chart} {view : ChartView} {e : Edge}
    (h : .edge e ∈ c.viewLines view) : e ∈ c.edges := by
  rcases List.mem_cons.mp h with h | h
  · cases h
  obtain ⟨⟨edges, index⟩, hmem, hline⟩ := List.mem_flatMap.mp h
  have hposition := List.mem_zipIdx_iff_getElem?.mp (List.mem_filter.mp hmem).1
  refine List.mem_flatMap.mpr ⟨edges, List.mem_of_getElem? hposition, ?_⟩
  rcases List.mem_append.mp hline with hline | hline
  · rcases List.mem_cons.mp hline with hline | hline
    · cases hline
    · obtain ⟨f, hf, hedge⟩ := List.mem_map.mp hline
      cases hedge
      exact List.mem_of_mem_take hf
  · split at hline
    · cases List.mem_singleton.mp hline
    · cases hline

namespace Legible

variable {c d : Chart}

theorem line {view : ChartView} (h : c.Legible) : ∀ line ∈ c.viewLines view, line.Legible := by
  intro line hline
  cases line with
  | edge e => exact (h e (mem_edges_of_mem_viewLines hline)).1
  | size total => trivial
  | heading count index => trivial
  | more => trivial

theorem newline_notMem {view : ChartView} (h : c.Legible) :
    ∀ t ∈ (c.viewLines view).map ViewLine.text, '\n' ∉ t.toList := by
  intro t ht
  obtain ⟨line, hline, rfl⟩ := List.mem_map.mp ht
  refine ViewLine.newline_notMem_text fun e he => ?_
  exact (h e (mem_edges_of_mem_viewLines (he ▸ hline))).2

/-- **Charts with the same text have the same lines**, whatever the view. -/
theorem viewLines_eq {view : ChartView} (hc : c.Legible) (hd : d.Legible) {width : Nat}
    (h : c.renderView view width = d.renderView view width) : c.viewLines view = d.viewLines view := by
  rw [renderView_eq, renderView_eq] at h
  exact ViewLine.eq_of_map_text_eq hc.line hd.line (eq_of_intercalate_eq (List.cons_ne_nil _ _)
    (List.cons_ne_nil _ _) hc.newline_notMem hd.newline_notMem h)

end Legible

/-- **Charts with the same text have the same edges at each position**: none is dropped, merged with
another or moved. -/
theorem positions_eq_of_render_eq {c d : Chart} (hlength : c.length = d.length) (hc : c.Legible)
    (hd : d.Legible) {width : Nat} (h : c.render width = d.render width) :
    c.positions = d.positions := by
  have hlines : c.viewLines {} = d.viewLines {} := hc.viewLines_eq hd h
  refine List.ext_getElem hlength fun k hk hk' => OrderedSet.ext_mem fun e => ?_
  rw [mem_getElem_iff_filed hk, mem_getElem_iff_filed hk', hlines]

/-- Edges whose symbols look like parts of the text. -/
def lookalikes : List Edge :=
  [⟨0, 7, "-->", ["]", "", "a.b"], 1, by decide, by decide⟩,
   ⟨0, 7, "", ["]", "0-1:"], 2, by decide, by decide⟩]

/-- Two charts over one token, with edges filed where they do not end. -/
theorem positions_eq_of_render_eq_lookalikes :
    let c : Chart := ⟨["a"], [.ofList lookalikes, .ofList [.lexical 0 "[0-1:"]], rfl⟩
    let d : Chart := ⟨["b"], [.ofList lookalikes.reverse, .ofList [.lexical 0 "[0-1:"]], rfl⟩
    c.length = d.length ∧ c.Legible ∧ d.Legible ∧ c.render standardWidth = d.render standardWidth ∧
      c.positions = d.positions := by
  intro c d
  have hc : c.Legible := by decide +kernel
  have hd : d.Legible := by decide +kernel
  have htext : c.render standardWidth = d.render standardWidth := by decide +kernel
  exact ⟨rfl, hc, hd, htext, positions_eq_of_render_eq rfl hc hd htext⟩

end Chart

end ChartParsing
