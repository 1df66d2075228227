import ChartParsing.Edge.Edit
import Mathlib.Data.List.Induction

/-!
# Edges under any history of edits

An edit asks for an edge with certain parts (`EdgeEdit.wanted`). It is made exactly if these parts
fit together, and then they are the ones that are held (`EdgeEdit.apply_eq_ok_iff`); otherwise
nothing changes (`EdgeEdit.run_concat`). So the parts of an edge that is held fit together after any
history, and what the edge says of itself agrees with them.

Main theorem: `EdgeEdit.history_keeps_fit`.
-/

set_option autoImplicit false

namespace ChartParsing

/-! ## Parts of an edge -/

/-- **The parts of an edge**, which need not fit together. -/
structure EdgeParts where
  start : Nat
  stop : Nat
  lhs : Symbol
  rhs : List Symbol
  dot : Nat

/-- **The parts fit together**, and the positions fit into a word. -/
structure EdgeParts.Fit (parts : EdgeParts) : Prop where
  start_le_stop : parts.start ≤ parts.stop
  stop_lt_size : parts.stop < UInt64.size
  dot_le_length : parts.dot ≤ parts.rhs.length

namespace Edge

def parts (e : Edge) : EdgeParts := ⟨e.start, e.stop, e.lhs, e.rhs, e.dot⟩

/-- The parts tell which edge it is. -/
theorem eq_of_parts_eq {e f : Edge} (h : e.parts = f.parts) : e = f := by
  rw [parts, parts, EdgeParts.mk.injEq] at h
  obtain ⟨hstart, hstop, hlhs, hrhs, hdot⟩ := h
  exact Edge.ext hstart hstop hlhs hrhs hdot

/-- The parts of an edge fit together as far as they are not too large. -/
theorem fit_parts_iff {e : Edge} : e.parts.Fit ↔ e.stop < UInt64.size :=
  ⟨fun h => h.stop_lt_size, fun h => ⟨e.start_le_stop, h, e.dot_le_length⟩⟩

/-- An edge is made exactly from its own parts. -/
theorem make_eq_ok_iff_parts {start stop : Nat} {lhs : Symbol} {rhs : List Symbol} {dot : Nat}
    {e : Edge} : make start stop lhs rhs dot = .ok e ↔ e.parts = ⟨start, stop, lhs, rhs, dot⟩ := by
  rw [make_eq_ok_iff, parts, EdgeParts.mk.injEq]

/-- A token is scanned exactly if the position behind it fits into a word. -/
theorem scan_eq_ok_iff {start : Nat} {token : Symbol} {e : Edge} :
    scan start token = .ok e ↔
      start + 1 < UInt64.size ∧ e.parts = ⟨start, start + 1, token, [], 0⟩ := by
  unfold scan
  by_cases h : start + 1 < UInt64.size
  · have hlexical : make start (start + 1) token [] 0 = .ok (lexical start token) :=
      make_eq_ok_iff_parts.mpr rfl
    rw [if_pos h, ← hlexical, and_iff_right h, make_eq_ok_iff_parts]
  · simp [h]

/-- **Advancing changes the dot and the end only.** That the edge expects a symbol is to say that the
dot behind it is not past the end. -/
theorem advance_eq_ok_iff_parts {w e : Edge} {stop : Nat} :
    w.advance stop = .ok e ↔ e.parts = ⟨w.start, stop, w.lhs, w.rhs, w.dot + 1⟩ := by
  rw [advance_eq_ok_iff, parts, EdgeParts.mk.injEq, and_iff_right_iff_imp]
  rintro ⟨-, -, -, hrhs, hdot⟩
  have hle := e.dot_le_length
  rw [hrhs, hdot] at hle
  exact isActive_iff.mpr hle

/-- An edge can be advanced exactly if it is active and starts at or before the new end. -/
theorem exists_advance_iff {w : Edge} {stop : Nat} :
    (∃ e, w.advance stop = .ok e) ↔ w.isActive = true ∧ w.start ≤ stop := by
  constructor
  · rintro ⟨e, h⟩
    obtain ⟨hactive, hstart, hstop, -⟩ := advance_eq_ok_iff.mp h
    have hspan := e.start_le_stop
    rw [hstart, hstop] at hspan
    exact ⟨hactive, hspan⟩
  · rintro ⟨hactive, hspan⟩
    exact exists_advance hactive hspan

/-- A passive edge is reported as such, wherever it was to be advanced to. -/
theorem advance_eq_error_passive_iff {w : Edge} {stop : Nat} :
    w.advance stop = .error .passive ↔ w.isPassive = true := by
  unfold advance make
  by_cases h : w.isPassive = true
  · simp [h]
  · rw [if_neg h]
    split
    · split <;> simp [h]
    · simp [h]

theorem advance_eq_error_startAfterStop_iff {w : Edge} {stop : Nat} :
    w.advance stop = .error (.startAfterStop w.start stop) ↔
      w.isActive = true ∧ stop < w.start := by
  unfold advance make
  by_cases h : w.isPassive = true
  · simp [h, isActive]
  · rw [if_neg h]
    split
    next hspan =>
      split
      · simp [hspan]
      · simp [hspan]
    next hspan => simp [h, isActive, Nat.lt_of_not_le hspan]

/-- An edge has no rule exactly if it stands for a token. -/
theorem rule?_eq_none_iff {e : Edge} : e.rule? = none ↔ e.isLexical = true := by
  unfold rule? isLexical
  rw [List.isEmpty_iff]
  split <;> simp [*]

/-! ## Advancing several times -/

theorem advanceAll_cons (w : Edge) (stop : Nat) (stops : List Nat) :
    w.advanceAll (stop :: stops) = (w.advance stop).bind fun v => v.advanceAll stops := rfl

/-- **Advancing to several ends in turn moves the dot once for each**, and ends at the last. -/
theorem advanceAll_eq_ok_iff {w e : Edge} {stops : List Nat} (h : ∀ stop ∈ stops, w.start ≤ stop) :
    w.advanceAll stops = .ok e ↔
      e.parts = ⟨w.start, stops.getLastD w.stop, w.lhs, w.rhs, w.dot + stops.length⟩ := by
  induction stops generalizing w with
  | nil =>
      show Except.ok w = Except.ok e ↔ e.parts = w.parts
      rw [Except.ok.injEq]
      exact ⟨fun heq => heq ▸ rfl, fun heq => (eq_of_parts_eq heq).symm⟩
  | cons stop stops ih =>
      obtain ⟨hstop, hstops⟩ := List.forall_mem_cons.mp h
      -- the edge behind the first step has the parts that the rest of the steps starts from
      have hstep : ∀ v, w.advance stop = .ok v → (v.advanceAll stops = .ok e ↔
          e.parts = ⟨w.start, (stop :: stops).getLastD w.stop, w.lhs, w.rhs,
            w.dot + (stop :: stops).length⟩) := by
        intro v hv
        obtain ⟨-, hvstart, hvstop, hvlhs, hvrhs, hvdot⟩ := advance_eq_ok_iff.mp hv
        rw [ih (by rwa [hvstart]), List.getLastD_cons, List.length_cons, Nat.add_comm stops.length,
          ← Nat.add_assoc, hvstart, hvstop, hvlhs, hvrhs, hvdot]
      rw [advanceAll_cons]
      constructor
      · intro hrest
        cases hv : w.advance stop with
        | error cause => rw [hv] at hrest; cases hrest
        | ok v =>
            rw [hv] at hrest
            exact (hstep v hv).mp hrest
      · intro hparts
        have hrhs : e.rhs = w.rhs := congrArg EdgeParts.rhs hparts
        have hdot : e.dot = w.dot + (stop :: stops).length := congrArg EdgeParts.dot hparts
        have hle := e.dot_le_length
        rw [hrhs, hdot, List.length_cons] at hle
        obtain ⟨v, hv⟩ := exists_advance (isActive_iff.mpr (by omega)) hstop
        rw [hv]
        exact (hstep v hv).mpr hparts

/-- Each step needs a symbol that is still expected. -/
theorem exists_advanceAll_iff {w : Edge} {stops : List Nat} (h : ∀ stop ∈ stops, w.start ≤ stop) :
    (∃ e, w.advanceAll stops = .ok e) ↔ w.dot + stops.length ≤ w.rhs.length := by
  simp only [advanceAll_eq_ok_iff h]
  constructor
  · rintro ⟨e, hparts⟩
    have hrhs : e.rhs = w.rhs := congrArg EdgeParts.rhs hparts
    have hdot : e.dot = w.dot + stops.length := congrArg EdgeParts.dot hparts
    exact hrhs ▸ hdot ▸ e.dot_le_length
  · intro hdot
    have hspan : w.start ≤ stops.getLastD w.stop :=
      List.forall_mem_cons.mpr ⟨w.start_le_stop, h⟩ _ List.getLastD_mem_cons
    exact ⟨⟨w.start, stops.getLastD w.stop, w.lhs, w.rhs, w.dot + stops.length, hspan, hdot⟩, rfl⟩

/-- One step too many is that of a passive edge. -/
theorem advanceAll_eq_error {w : Edge} {stops : List Nat} (h : ∀ stop ∈ stops, w.start ≤ stop)
    (hlong : w.rhs.length < w.dot + stops.length) : w.advanceAll stops = .error .passive := by
  induction stops generalizing w with
  | nil => exact absurd w.dot_le_length (Nat.not_le_of_lt hlong)
  | cons stop stops ih =>
      obtain ⟨hstop, hstops⟩ := List.forall_mem_cons.mp h
      rw [advanceAll_cons]
      by_cases hpassive : w.isPassive = true
      · rw [advance_eq_error_passive_iff.mpr hpassive]
        rfl
      · obtain ⟨v, hv⟩ := exists_advance (by simp [isActive, hpassive]) hstop
        obtain ⟨-, hvstart, -, -, hvrhs, hvdot⟩ := advance_eq_ok_iff.mp hv
        rw [List.length_cons] at hlong
        rw [hv]
        exact ih (by rwa [hvstart]) (by rw [hvrhs, hvdot]; omega)

/-- **A rule is predicted and then advanced once for each further symbol**, and no more often. -/
theorem predicted_advanceAll {start stop : Nat} {r : Rule} {stops : List Nat}
    (h : ∀ t ∈ stops, start ≤ t) :
    let advanced := (predicted start stop r).bind fun e => e.advanceAll stops
    ((∃ e, advanced = .ok e) ↔ start ≤ stop ∧ stops.length ≤ r.length - 1) ∧
      (start ≤ stop → r.length - 1 < stops.length → advanced = .error .passive) ∧
      ∀ e, advanced = .ok e → e.start = start ∧ e.dot = stops.length + 1 ∧ e.rule? = some r ∧
        (e.isPassive = true ↔ stops.length = r.length - 1) := by
  intro advanced
  have hlength : 0 < r.length := List.length_pos_iff.mpr r.rhs_ne_nil
  by_cases hspan : start ≤ stop
  · obtain ⟨v, hv⟩ := exists_predicted hspan r
    obtain ⟨hstart, -, hlhs, hrhs, hdot⟩ := predicted_eq_ok_iff.mp hv
    have hadvanced : advanced = v.advanceAll stops := by
      show (predicted start stop r).bind _ = _
      rw [hv]
      rfl
    have hstops : ∀ t ∈ stops, v.start ≤ t := by rwa [hstart]
    have hroom : v.dot + stops.length ≤ v.rhs.length ↔ stops.length ≤ r.length - 1 := by
      rw [hdot, hrhs]
      show 1 + stops.length ≤ r.length ↔ _
      omega
    rw [hadvanced, exists_advanceAll_iff hstops, hroom, and_iff_right hspan]
    refine ⟨Iff.rfl, ?_, ?_⟩
    · intro _ hlong
      refine advanceAll_eq_error hstops (Nat.lt_of_not_le fun hle => ?_)
      exact Nat.not_le_of_lt hlong (hroom.mp hle)
    · intro e he
      have hparts := (advanceAll_eq_ok_iff hstops).mp he
      have helhs : e.lhs = r.lhs := (congrArg EdgeParts.lhs hparts).trans hlhs
      have herhs : e.rhs = r.rhs := (congrArg EdgeParts.rhs hparts).trans hrhs
      have hedot : e.dot = v.dot + stops.length := congrArg EdgeParts.dot hparts
      rw [hdot, Nat.add_comm] at hedot
      refine ⟨(congrArg EdgeParts.start hparts).trans hstart, hedot,
        rule?_eq_some_iff.mpr ⟨helhs.symm, herhs.symm⟩, ?_⟩
      rw [isPassive_iff, hedot, herhs]
      show stops.length + 1 = r.length ↔ _
      omega
  · have hadvanced : advanced = .error (.startAfterStop start stop) := by
      show (predicted start stop r).bind _ = _
      rw [predicted, make, dif_neg hspan]
      rfl
    rw [hadvanced]
    refine ⟨?_, fun h => absurd h hspan, ?_⟩
    · constructor
      · rintro ⟨e, he⟩
        cases he
      · intro h
        exact absurd h.1 hspan
    · intro e he
      cases he

end Edge

/-! ## Histories -/

namespace EdgeEdit

variable {α : Type}

/-- The numbers in an edit fit into a word. -/
def Words : EdgeEdit α → Prop
  | .make start stop _ _ dot => start < UInt64.size ∧ stop < UInt64.size ∧ dot < UInt64.size
  | .scan start _ => start < UInt64.size
  | .predict start stop _ => start < UInt64.size ∧ stop < UInt64.size
  | .advance stop => stop < UInt64.size
  | .attach _ => True
  | .detach => True

/-- **What an edit asks for**: the parts of an edge, and its value. An edit of the held edge asks for
nothing if no edge is held. -/
def wanted (held : Option (Annotated α)) : EdgeEdit α → Option (EdgeParts × Option α)
  | .make start stop lhs rhs dot => some (⟨start, stop, lhs, rhs, dot⟩, none)
  | .scan start token => some (⟨start, start + 1, token, [], 0⟩, none)
  | .predict start stop r => some (⟨start, stop, r.lhs, r.rhs, 1⟩, none)
  | .advance stop =>
    held.map fun a => (⟨a.edge.start, stop, a.edge.lhs, a.edge.rhs, a.edge.dot + 1⟩, none)
  | .attach value => held.map fun a => (a.edge.parts, some value)
  | .detach => held.map fun a => (a.edge.parts, none)

/-- An edge with a value is told by its parts and the value. -/
theorem mk_eq_iff {a : Annotated α} {e : Edge} {value : Option α} :
    (⟨e, ⟨value⟩⟩ : Annotated α) = a ↔ a.edge.parts = e.parts ∧ a.value? = value := by
  constructor
  · rintro rfl
    exact ⟨rfl, rfl⟩
  · obtain ⟨f, ⟨held⟩⟩ := a
    rintro ⟨hparts, rfl⟩
    rw [← Edge.eq_of_parts_eq hparts]
    rfl

theorem hold_eq_ok_iff {made : Except EdgeError Edge} {a : Annotated α} :
    hold made = .ok a ↔ made = .ok a.edge ∧ a.value? = none := by
  cases made with
  | error cause => simp [hold]
  | ok e =>
      show Except.ok (⟨e, ⟨none⟩⟩ : Annotated α) = .ok a ↔ _
      rw [Except.ok.injEq, Except.ok.injEq, mk_eq_iff]
      exact and_congr_left fun _ => ⟨fun h => (Edge.eq_of_parts_eq h).symm, fun h => h ▸ rfl⟩

/-- What is held is what was asked for, and so fits together unless it is too large. -/
theorem held_iff {a : Annotated α} {parts : EdgeParts} {value : Option α}
    (hstop : parts.stop < UInt64.size) :
    a.edge.parts = parts ∧ a.value? = value ↔
      some (parts, value) = some (a.edge.parts, a.value?) ∧ a.edge.parts.Fit := by
  rw [Option.some_inj, Prod.mk.injEq, eq_comm, eq_comm (a := a.value?), iff_self_and]
  rintro ⟨rfl, -⟩
  exact Edge.fit_parts_iff.mpr hstop

/-- **An edit is made exactly if the parts that it asks for fit together**, and then they are the
parts that are held. -/
theorem apply_eq_ok_iff {held : Option (Annotated α)} (hheld : ∀ a ∈ held, a.edge.parts.Fit)
    {edit : EdgeEdit α} (hwords : edit.Words) {a : Annotated α} :
    apply held edit = .ok a ↔
      wanted held edit = some (a.edge.parts, a.value?) ∧ a.edge.parts.Fit := by
  cases edit with
  | make start stop lhs rhs dot =>
      rw [apply, hold_eq_ok_iff, Edge.make_eq_ok_iff_parts]
      exact held_iff hwords.2.1
  | scan start token =>
      rw [apply, hold_eq_ok_iff, Edge.scan_eq_ok_iff]
      by_cases hstop : start + 1 < UInt64.size
      · rw [and_iff_right hstop]
        exact held_iff hstop
      · refine iff_of_false (fun h => hstop h.1.1) fun h => hstop ?_
        obtain ⟨hparts, -⟩ := Prod.mk.inj (Option.some.inj h.1)
        have hfit := h.2.stop_lt_size
        rwa [← hparts] at hfit
  | predict start stop r =>
      rw [apply, hold_eq_ok_iff, Edge.predicted, Edge.make_eq_ok_iff_parts]
      exact held_iff hwords.2
  | advance stop =>
      cases held with
      | none => simp [apply, wanted]
      | some b =>
          show hold (b.edge.advance stop) = .ok a ↔ _
          rw [hold_eq_ok_iff, Edge.advance_eq_ok_iff_parts]
          exact held_iff hwords
  | attach value =>
      cases held with
      | none => simp [apply, wanted]
      | some b =>
          show Except.ok (⟨b.edge, ⟨some value⟩⟩ : Annotated α) = .ok a ↔ _
          rw [Except.ok.injEq, mk_eq_iff]
          exact held_iff (hheld b rfl).stop_lt_size
  | detach =>
      cases held with
      | none => simp [apply, wanted]
      | some b =>
          show Except.ok (⟨b.edge, ⟨none⟩⟩ : Annotated α) = .ok a ↔ _
          rw [Except.ok.injEq, mk_eq_iff]
          exact held_iff (hheld b rfl).stop_lt_size

/-- Parts that fit together are those of an edge, so an edit that asks for them is made. -/
theorem exists_apply_iff {held : Option (Annotated α)} (hheld : ∀ a ∈ held, a.edge.parts.Fit)
    {edit : EdgeEdit α} (hwords : edit.Words) :
    (∃ a, apply held edit = .ok a) ↔
      ∃ parts value, wanted held edit = some (parts, value) ∧ parts.Fit := by
  simp only [apply_eq_ok_iff hheld hwords]
  constructor
  · rintro ⟨a, h⟩
    exact ⟨_, _, h⟩
  · rintro ⟨parts, value, hwanted, hfit⟩
    exact ⟨⟨⟨parts.start, parts.stop, parts.lhs, parts.rhs, parts.dot, hfit.start_le_stop,
      hfit.dot_le_length⟩, ⟨value⟩⟩, hwanted, hfit⟩

/-- **The last edit of a history is made, or changes nothing.** -/
theorem run_concat (held : Option (Annotated α)) (edits : List (EdgeEdit α)) (edit : EdgeEdit α) :
    run held (edits ++ [edit]) =
      match apply (run held edits) edit with
      | .error _ => run held edits
      | .ok a => some a := by
  induction edits generalizing held with
  | nil =>
      show (match apply held edit with | .error _ => run held [] | .ok a => run (some a) []) = _
      rfl
  | cons first edits ih =>
      rw [List.cons_append, run, run]
      cases apply held first with
      | error e => exact ih held
      | ok a => exact ih (some a)

/-- **The parts of the held edge fit together after any history.** -/
theorem fit_run {edits : List (EdgeEdit α)} (hwords : ∀ edit ∈ edits, edit.Words) :
    ∀ a ∈ run none edits, a.edge.parts.Fit := by
  induction edits using List.reverseRecOn with
  | nil =>
      intro a ha
      cases ha
  | append_singleton edits edit ih =>
      have ih := ih fun edit hedit => hwords edit (List.mem_append_left _ hedit)
      intro a ha
      rw [run_concat] at ha
      cases hlast : apply (run none edits) edit with
      | error e =>
          rw [hlast] at ha
          exact ih a ha
      | ok b =>
          rw [hlast] at ha
          cases ha
          exact ((apply_eq_ok_iff ih (hwords edit (by simp))).mp hlast).2

/-- An edge that is held cannot be advanced for the same reasons as without its value. -/
theorem apply_advance_eq_error_iff {a : Annotated α} {stop : Nat} {cause : EdgeError} :
    apply (some a) (.advance stop) = .error (.badEdge cause) ↔
      a.edge.advance stop = .error cause := by
  show hold (a.edge.advance stop) = .error (.badEdge cause) ↔ _
  cases a.edge.advance stop <;> simp [hold]

/-- An edge that is held is advanced as it is without its value, and loses the value. -/
theorem apply_advance_eq_ok_iff {a b : Annotated α} {stop : Nat} :
    apply (some a) (.advance stop) = .ok b ↔ a.edge.advance stop = .ok b.edge ∧ b.value? = none :=
  hold_eq_ok_iff

theorem exists_apply_advance_iff {a : Annotated α} {stop : Nat} :
    (∃ b, apply (some a) (.advance stop) = .ok b) ↔ a.edge.isActive = true ∧ a.edge.start ≤ stop := by
  rw [← Edge.exists_advance_iff]
  constructor
  · rintro ⟨b, h⟩
    exact ⟨b.edge, (apply_advance_eq_ok_iff.mp h).1⟩
  · rintro ⟨e, h⟩
    exact ⟨.plain e, apply_advance_eq_ok_iff.mpr ⟨h, rfl⟩⟩

/-- **An edge stays well formed under every history of edits.** Let the numbers in the edits fit into
words. Then the parts of the held edge fit together, it expects no symbol exactly if it is passive,
and has no rule exactly if it is lexical. An edit more is made exactly if the parts that it asks for
fit together, which are then those of the held edge; otherwise nothing changes. In particular an
edge is advanced exactly if it is active and starts at or before the new end, which changes the dot
and the end and drops the value; a passive edge is reported before a span that ends too early. A
rule that is predicted is advanced once for each symbol behind its first, and no more often. -/
theorem history_keeps_fit (edits : List (EdgeEdit α)) (hwords : ∀ edit ∈ edits, edit.Words) :
    (∀ a, run none edits = some a →
      (a.edge.start ≤ a.edge.stop ∧ a.edge.stop < UInt64.size ∧
        a.edge.dot ≤ a.edge.rhs.length) ∧
      (a.edge.next? = none ↔ a.edge.isPassive = true) ∧
      (a.edge.rule? = none ↔ a.edge.isLexical = true)) ∧
    (∀ edit : EdgeEdit α, edit.Words →
      ((∃ a, apply (run none edits) edit = .ok a) ↔
        ∃ parts value, wanted (run none edits) edit = some (parts, value) ∧ parts.Fit) ∧
      (∀ a, apply (run none edits) edit = .ok a →
        wanted (run none edits) edit = some (a.edge.parts, a.value?) ∧
          run none (edits ++ [edit]) = some a) ∧
      ∀ e, apply (run none edits) edit = .error e →
        run none (edits ++ [edit]) = run none edits) ∧
    (∀ (a : Annotated α) (stop : Nat),
      ((∃ b, apply (some a) (.advance stop) = .ok b) ↔
        a.edge.isActive = true ∧ a.edge.start ≤ stop) ∧
      (∀ b, apply (some a) (.advance stop) = .ok b →
        b.edge.parts = ⟨a.edge.start, stop, a.edge.lhs, a.edge.rhs, a.edge.dot + 1⟩ ∧
          b.value? = none) ∧
      (apply (some a) (.advance stop) = .error (.badEdge .passive) ↔ a.edge.isPassive = true) ∧
      (apply (some a) (.advance stop) = .error (.badEdge (.startAfterStop a.edge.start stop)) ↔
        a.edge.isActive = true ∧ stop < a.edge.start)) ∧
    ∀ (r : Rule) (start stop : Nat) (stops : List Nat), (∀ t ∈ stops, start ≤ t) →
      let advanced := (Edge.predicted start stop r).bind fun e => e.advanceAll stops
      ((∃ e, advanced = .ok e) ↔ start ≤ stop ∧ stops.length ≤ r.length - 1) ∧
      (start ≤ stop → r.length - 1 < stops.length → advanced = .error .passive) ∧
      ∀ e, advanced = .ok e → e.start = start ∧ e.dot = stops.length + 1 ∧ e.rule? = some r ∧
        (e.isPassive = true ↔ stops.length = r.length - 1) := by
  have hheld := fit_run hwords
  refine ⟨?_, ?_, ?_, ?_⟩
  · intro a ha
    have hfit := hheld a ha
    exact ⟨⟨hfit.start_le_stop, hfit.stop_lt_size, hfit.dot_le_length⟩, Edge.next?_eq_none_iff,
      Edge.rule?_eq_none_iff⟩
  · intro edit hedit
    refine ⟨exists_apply_iff hheld hedit, ?_, ?_⟩
    · intro a ha
      refine ⟨((apply_eq_ok_iff hheld hedit).mp ha).1, ?_⟩
      rw [run_concat, ha]
    · intro e he
      rw [run_concat, he]
  · intro a stop
    refine ⟨exists_apply_advance_iff, ?_, ?_, ?_⟩
    · intro b hb
      obtain ⟨hadvance, hvalue⟩ := apply_advance_eq_ok_iff.mp hb
      exact ⟨Edge.advance_eq_ok_iff_parts.mp hadvance, hvalue⟩
    · rw [apply_advance_eq_error_iff, Edge.advance_eq_error_passive_iff]
    · rw [apply_advance_eq_error_iff, Edge.advance_eq_error_startAfterStop_iff]
  · intro r start stop stops
    exact Edge.predicted_advanceAll

/-- A span that ends too early is refused, and a token that ends behind the largest word. The edge
is advanced to an end before its old one, loses its value, and cannot be advanced any further. -/
theorem history_keeps_fit_refused :
    let edits : List (EdgeEdit String) :=
      [.make 2 1 "X" [] 0, .scan (UInt64.size - 1) "a", .predict 0 2 (.of "S" "NP" ["VP"]),
        .attach "tree", .advance 1, .advance 3]
    let held : Annotated String := .plain ⟨0, 1, "S", ["NP", "VP"], 2, by decide, by decide⟩
    (∀ edit ∈ edits, edit.Words) ∧ run none edits = some held ∧
      (held.edge.stop < UInt64.size ∧ held.edge.next? = none) ∧
      run none (edits ++ [.advance 3]) = run none edits ∧
      (∀ t ∈ [1], 1 ≤ t) ∧
      ∃ e, ((Edge.predicted 1 2 (.of "S" "NP" ["VP"])).bind fun e => e.advanceAll [1]) = .ok e := by
  intro edits held
  have hwords : ∀ edit ∈ edits, edit.Words := by simp [edits, Words, UInt64.size]
  have hrun : run none edits = some held := rfl
  have hstops : ∀ t ∈ [1], 1 ≤ t := by decide
  obtain ⟨hheld, hedits, -, hpredicted⟩ := history_keeps_fit edits hwords
  obtain ⟨⟨-, hstop, -⟩, hnext, -⟩ := hheld held hrun
  obtain ⟨-, -, hrefused⟩ := hedits (.advance 3) (show 3 < UInt64.size by decide)
  obtain ⟨hmade, -, -⟩ := hpredicted (.of "S" "NP" ["VP"]) 1 2 [1] hstops
  exact ⟨hwords, hrun, ⟨hstop, hnext.mpr rfl⟩, hrefused (.badEdge .passive) rfl, hstops,
    hmade.mpr (by decide)⟩

end EdgeEdit

end ChartParsing
