import ChartParsing.Proofs.Contents

/-!
# Recognizing with every check made

Several steps of a recognition make sense under a condition only: a rule is looked up by a
number, a column by a position, and an edge is made from parts that have to fit together. A
recognition takes these steps as if nothing could go wrong. Here each of them reports a
`Fault` when its condition does not hold, and the first fault breaks the recognition off.

Main theorem: `recognizeChecked_eq_ok`, no fault is ever reported, and what comes out is the
recognition without the checks. The conditions follow from what the columns hold: an inferred
edge starts before the position where it ends, and a waiting edge ends where it waits.
-/

set_option autoImplicit false

namespace ChartParsing

/-! ## Faults -/

/-- **A step of a recognition that cannot be taken.** -/
inductive Fault where
  /-- No token stands in front of the first position. -/
  | noToken
  /-- The index of the grammar gives a number that no rule has. -/
  | noRule (number : Nat)
  /-- A passive edge does not start before the position where it ends. -/
  | noSpan (start position : Nat)
  /-- A position has no column yet. -/
  | noColumn (position : Nat)
  /-- An edge cannot be made, or cannot be advanced. -/
  | edge (e : EdgeError)
  /-- The edge sets do not make a chart. -/
  | chart (e : ChartError)
  /-- The budget was used up before the agenda. -/
  | unfinished
deriving DecidableEq

/-! ## Checked steps -/

/-- The lexical edge that ends at a position, which goes on the agenda first. -/
def checkedSeed (position : Nat) (token : Symbol) : Except Fault Edge :=
  match position with
  | 0 => .error .noToken
  | start + 1 => (Edge.scan start token).mapError .edge

/-- The edge predicted from the rule that has a number in the index. -/
def checkedPrediction (g : Grammar) (position : Nat) (e : Edge) (number : Nat) :
    Except Fault Edge :=
  match g.rules[number]? with
  | none => .error (.noRule number)
  | some r => (Edge.predicted e.start position r).mapError .edge

def checkedPredictions (g : Grammar) (position : Nat) (e : Edge) : Except Fault (List Edge) :=
  (g.byFirst.lookup e.lhs).mapM (checkedPrediction g position e)

def checkedCompletions (stages : Array Stage) (position : Nat) (e : Edge) :
    Except Fault (List Edge) :=
  if e.start < position then
    match columnAt stages e.start with
    | none => .error (.noColumn e.start)
    | some column => (column.expecting e.lhs).mapM fun w => (w.advance position).mapError .edge
  else .error (.noSpan e.start position)

/-- What follows from an edge, unless a step on the way cannot be taken. -/
def checkedInferences (g : Grammar) (stages : Array Stage) (position : Nat) (e : Edge) :
    Except Fault (List Inference) :=
  if e.isPassive then do
    let predicted ← checkedPredictions g position e
    let completed ← checkedCompletions stages position e
    return predicted.map .predicted ++ completed.map .completed
  else return []

/-- Works off an agenda to its end, as `saturate` does, by a rule of inference that may fail. -/
def saturateChecked (order : AgendaOrder) (infer : Edge → Except Fault (List Inference)) :
    (budget : Nat) → (known : EdgeSet) → (agenda : List Edge) → Except Fault Saturation
  | 0, known, agenda =>
    match passKnown known agenda with
    | (passed, []) => .ok ⟨known, passed, []⟩
    | (_, _ :: _) => .error .unfinished
  | budget + 1, known, agenda =>
    match passKnown known agenda with
    | (passed, []) => .ok ⟨known, passed, []⟩
    | (passed, e :: rest) => do
      let new ← infer e
      let further ← saturateChecked order infer budget (known.insert e)
        (order.enqueue rest (new.map Inference.edge))
      return { further with
        events := passed ++ .popped e rest.length :: .added e ::
          (new.map Inference.event ++ further.events) }

/-- The stage of a token that stands in front of a position. -/
def checkedStage (order : AgendaOrder) (g : Grammar) (stages : Array Stage) (token : Symbol)
    (position : Nat) : Except Fault Stage := do
  let seed ← checkedSeed position token
  let found ← saturateChecked order (checkedInferences g stages position) (capacity g position) ∅
    [seed]
  return ⟨position, token, .ofEdges found.edges, found.events, found.pending⟩

/-- The stages of the tokens, which stand in front of the positions from 1 on. -/
def checkedStages (order : AgendaOrder) (g : Grammar) (input : List Symbol) :
    Except Fault (Array Stage) :=
  (input.zipIdx 1).foldlM
    (fun stages (token, position) => do
      return stages.push (← checkedStage order g stages token position)) #[]

/-- **A recognition with every check made**: what happened, and the chart. -/
def Recognizer.recognizeChecked (recognizer : Recognizer) (g : Grammar) (input : List Symbol) :
    Except Fault (List Event × Chart) := do
  let stages ← checkedStages recognizer.agendaOrder g input
  let positions := ∅ :: stages.toList.map fun stage => stage.column.passivePart
  let chart ← (Chart.make input positions).mapError .chart
  return (stages.toList.flatMap Stage.events, chart)

/-! ## Steps that can be taken -/

/-- A traversal without a failure gives all its values. -/
theorem mapM_eq_ok_filterMap {α β ε : Type} {f : α → Except ε β} {value : α → Option β}
    {xs : List α} (h : ∀ x ∈ xs, ∃ y, f x = .ok y ∧ value x = some y) :
    xs.mapM f = .ok (xs.filterMap value) := by
  induction xs with
  | nil => rfl
  | cons x xs ih =>
      obtain ⟨y, hf, hvalue⟩ := h x List.mem_cons_self
      have hrest := ih fun z hz => h z (List.mem_cons_of_mem x hz)
      rw [List.mapM_cons, hf, hrest, List.filterMap_cons, hvalue]
      rfl

variable {g : Grammar} {input : List Symbol} {stages : Array Stage} {position : Nat}

/-- The position behind a token fits into a word. -/
theorem checkedSeed_eq_ok {start : Nat} (h : start + 1 < UInt64.size) (token : Symbol) :
    checkedSeed (start + 1) token = .ok (.lexical start token) := by
  show (Edge.scan start token).mapError Fault.edge = _
  rw [Edge.scan, if_pos h]
  rfl

/-- **Every rule in the index is there, and is predicted.** -/
theorem checkedPredictions_eq_ok {e : Edge} (hstart : e.start ≤ position) :
    checkedPredictions g position e = .ok (predictions .indexed g position e) := by
  have hindexed : predictions .indexed g position e =
      (g.byFirst.lookup e.lhs).filterMap fun number => g.rules[number]?.bind fun r =>
        (Edge.predicted e.start position r).toOption := List.filterMap_filterMap
  rw [hindexed]
  refine mapM_eq_ok_filterMap fun number hnumber => ?_
  obtain ⟨r, hr, -⟩ := Grammar.exists_rule_of_mem_byFirst hnumber
  obtain ⟨f, hf⟩ := Edge.exists_predicted hstart r
  refine ⟨f, ?_, ?_⟩
  · rw [checkedPrediction, hr]
    exact congrArg (Except.mapError Fault.edge) hf
  · rw [hr, Option.bind_some, hf]
    rfl

/-- **Every waiting edge is active, and is advanced**: it ends where the passive edge starts. -/
theorem checkedCompletions_eq_ok (h : Exact g input stages) {e : Edge}
    (hstart : e.start ≤ stages.size) (hspan : e.start < position) :
    checkedCompletions stages position e = .ok (completions .indexed stages position e) := by
  obtain ⟨column, hcolumn, hmem⟩ := h e.start hstart
  rw [checkedCompletions, if_pos hspan, completions, hcolumn]
  refine mapM_eq_ok_filterMap fun w hw => ?_
  obtain ⟨hw, hnext⟩ := Column.mem_expecting.mp hw
  -- `w` ends where `e` starts, so its span grows when it is advanced
  have hstop := ((hmem w).mp hw).2
  have hle := w.start_le_stop
  obtain ⟨f, hf⟩ := Edge.exists_advance (Edge.isActive_of_next? hnext)
    (show w.start ≤ position by omega)
  refine ⟨f, ?_, ?_⟩
  · rw [hf]
    rfl
  · rw [hf]
    rfl

/-- **What follows from an inferred edge is found without a fault.** -/
theorem checkedInferences_eq_ok (h : Exact g input stages) {e : Edge} (he : Inferred g input e)
    (hstop : e.stop = stages.size + 1) :
    checkedInferences g stages (stages.size + 1) e =
      .ok (inferences .indexed g stages (stages.size + 1) e) := by
  have hspan := he.holds.span
  unfold checkedInferences inferences
  split
  next =>
    have hpredictions : checkedPredictions g (stages.size + 1) e = _ :=
      checkedPredictions_eq_ok (by omega)
    have hcompletions : checkedCompletions stages (stages.size + 1) e = _ :=
      checkedCompletions_eq_ok h (by omega) (by omega)
    rw [hpredictions, hcompletions]
    rfl
  next => rfl

/-! ## The loop and the stages -/

theorem mem_of_mem_passKnown (known : EdgeSet) {agenda : List Edge} {e : Edge}
    (h : e ∈ (passKnown known agenda).2) : e ∈ agenda := by
  induction agenda with
  | nil => exact h
  | cons f agenda ih =>
      unfold passKnown at h
      split at h
      next => exact List.mem_cons_of_mem f (ih h)
      next => exact h

/-- **A loop that meets no fault is the loop without the checks.** Only reached edges are
expanded, and the budget lasts until nothing is pending. -/
theorem saturateChecked_eq_ok (order : AgendaOrder) {infer : Edge → List Inference}
    {checked : Edge → Except Fault (List Inference)} {seeds : List Edge}
    (hinfer : ∀ e, Reached infer seeds e → checked e = .ok (infer e)) (budget : Nat)
    (known : EdgeSet) {agenda : List Edge} (hagenda : ∀ e ∈ agenda, Reached infer seeds e)
    (hdone : (saturate order infer budget known agenda).pending = []) :
    saturateChecked order checked budget known agenda =
      .ok (saturate order infer budget known agenda) := by
  induction budget generalizing known agenda with
  | zero =>
      rcases hpass : passKnown known agenda with ⟨passed, _ | ⟨e, rest⟩⟩
      · simp only [saturateChecked, saturate, hpass]
      · simp [saturate, hpass] at hdone
  | succ budget ih =>
      rcases hpass : passKnown known agenda with ⟨passed, _ | ⟨e, rest⟩⟩
      · simp only [saturateChecked, saturate, hpass]
      · have hfront : ∀ f ∈ e :: rest, Reached infer seeds f := by
          intro f hf
          exact hagenda f (mem_of_mem_passKnown known (by rw [hpass]; exact hf))
        have he := hfront e List.mem_cons_self
        -- what follows from a reached edge is reached as well
        have hnext : ∀ f ∈ order.enqueue rest ((infer e).map Inference.edge),
            Reached infer seeds f := by
          intro f hf
          rcases AgendaOrder.mem_enqueue.mp hf with hf | hf
          · exact hfront f (List.mem_cons_of_mem e hf)
          · obtain ⟨x, hx, rfl⟩ := List.mem_map.mp hf
            exact .follow he hx
        simp only [saturate, hpass] at hdone
        simp only [saturateChecked, saturate, hpass]
        rw [hinfer e he]
        have hfurther := ih (known.insert e) hnext hdone
        show (saturateChecked order checked budget _ _).bind _ = _
        rw [hfurther]
        rfl

/-- **The stage of the next token is found without a fault.** -/
theorem checkedStage_eq_ok (order : AgendaOrder) (h : Exact g input stages) {token : Symbol}
    (htoken : input[stages.size]? = some token) (hword : stages.size + 1 < UInt64.size) :
    checkedStage order g stages token (stages.size + 1) =
      .ok (nextStage .indexed order g stages token) := by
  have hdone : (nextStage .indexed order g stages token).pending = [] :=
    (nextStage_spec order h htoken).pending_eq
  have hinfer : ∀ e, Reached (inferences .indexed g stages (stages.size + 1))
      [.lexical stages.size token] e → checkedInferences g stages (stages.size + 1) e =
        .ok (inferences .indexed g stages (stages.size + 1) e) := by
    intro e he
    obtain ⟨he, hstop⟩ := Reached.inferred h htoken he
    exact checkedInferences_eq_ok h he hstop
  have hfound := saturateChecked_eq_ok order hinfer (capacity g (stages.size + 1)) ∅
    (fun e he => .seed he) hdone
  rw [checkedStage, checkedSeed_eq_ok hword]
  show (saturateChecked order _ _ ∅ [.lexical stages.size token]).bind _ = _
  rw [hfound]
  rfl

/-- The stages of every prefix are found without a fault, one token after the other. -/
theorem checkedStages_take_eq_ok (order : AgendaOrder) (g : Grammar)
    (hword : input.length < UInt64.size) {k : Nat} (hk : k ≤ input.length) :
    checkedStages order g (input.take k) = .ok (stagesOf .indexed order g (input.take k)) := by
  induction k with
  | zero => rfl
  | succ k ih =>
      have hsize := size_stagesOf_take .indexed order g (Nat.le_of_lt hk)
      have htoken : input[k]? = some input[k] := List.getElem?_eq_getElem hk
      have hexact := exact_stagesOf order g input (Nat.le_of_lt hk)
      have hprefix := ih (Nat.le_of_lt hk)
      have hstage := checkedStage_eq_ok order hexact (by rw [hsize]; exact htoken)
        (by rw [hsize]; omega)
      -- the token behind the prefix has the number of the stages before it, and one more
      rw [checkedStages] at hprefix
      rw [take_succ_concat htoken, checkedStages, stagesOf_concat, List.zipIdx_append,
        List.foldlM_append, hprefix, List.length_take_of_le (Nat.le_of_lt hk), Nat.add_comm 1 k]
      rw [hsize] at hstage
      show ((checkedStage order g _ input[k] (k + 1)).bind _).bind _ = _
      rw [hstage]
      rfl

/-! ## The recognition -/

/-- **A recognition never fails.** The numbers in the index of the grammar are those of rules,
and with every check made, a recognition of any input that can be indexed gives the same events
and the same chart as without the checks: each rule and each column that is looked up is there,
each edge that is predicted or advanced can be made, no passive edge starts where it ends, and
there is an edge set for each position of the chart. -/
theorem recognizeChecked_eq_ok (recognizer : Recognizer) (g : Grammar) {input : List Symbol}
    (hlength : input.length < 2 ^ 63) :
    (∀ s, ∀ number ∈ g.byFirst.lookup s, number < g.rules.length) ∧
    recognizer.recognizeChecked g input =
      .ok ((recognizer.recognize g input).events, (recognizer.recognize g input).chart) := by
  constructor
  · intro s number hnumber
    obtain ⟨r, hr, -⟩ := Grammar.exists_rule_of_mem_byFirst hnumber
    exact (List.getElem?_eq_some_iff.mp hr).1
  · have hword : input.length < UInt64.size := Nat.lt_trans hlength (by decide)
    have hstages := checkedStages_take_eq_ok recognizer.agendaOrder g hword (Nat.le_refl _)
    rw [List.take_length] at hstages
    have hchart : Chart.make input (recognizer.recognize g input).positions =
        .ok (recognizer.recognize g input).chart :=
      dif_pos (recognizer.recognize g input).chart.length_positions
    rw [Recognizer.recognizeChecked, hstages]
    show ((Chart.make input (recognizer.recognize g input).positions).mapError
      Fault.chart).bind _ = _
    rw [hchart]
    rfl

/-- An ambiguous and left-recursive grammar, and a token that a rule expands. -/
theorem recognizeChecked_eq_ok_doubling :
    (["a", "b", "a"] : List Symbol).length < 2 ^ 63 ∧
      (Recognizer.mk .queue).recognizeChecked doubling ["a", "b", "a"] =
        .ok (((Recognizer.mk .queue).recognize doubling ["a", "b", "a"]).events,
          ((Recognizer.mk .queue).recognize doubling ["a", "b", "a"]).chart) :=
  ⟨by decide, (recognizeChecked_eq_ok (.mk .queue) doubling (by decide)).2⟩

end ChartParsing
