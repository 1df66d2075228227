import ChartParsing.Rule

/-!
# Edges

An edge says how far a rule was recognized over a span of the input: the symbols before
its dot cover the tokens from `start` to `stop`. It is passive when the dot has reached the
end, active when a symbol is still expected. A lexical edge has no right-hand side: it
stands for a token by itself.

`Edge.make` is the checked way to build one. It reports a span that ends before it starts
first, then a dot past the end; `Edge.advance` reports a passive edge before either.
-/

set_option autoImplicit false

namespace ChartParsing

open Std

/-! ## Errors of an edge -/

/-- Why no edge could be made. -/
inductive EdgeError where
  /-- The span ends before it starts. -/
  | startAfterStop (start stop : Nat)
  /-- The dot is past the end of the right-hand side. -/
  | dotPastEnd (dot length : Nat)
  /-- A passive edge expects no further symbol. -/
  | passive
  /-- The position after the token does not fit into 64 bits. -/
  | positionOverflow
deriving DecidableEq

def EdgeError.message : EdgeError → String
  | .startAfterStop start stop => "edge start " ++ toString start ++ " is after end " ++ toString stop
  | .dotPastEnd dot length =>
    "edge dot " ++ toString dot ++ " is past a right-hand side of length " ++ toString length
  | .passive => "cannot advance a passive edge"
  | .positionOverflow => "attempt to add with overflow"

/-! ## Edges -/

/-- **A dotted rule over a span of the input.** -/
@[ext]
structure Edge where
  start : Nat
  stop : Nat
  /-- The symbol that the edge recognizes, or the token of a lexical edge. -/
  lhs : Symbol
  /-- The right-hand side of the rule; none for a lexical edge. -/
  rhs : List Symbol
  /-- How many symbols of the right-hand side were recognized. -/
  dot : Nat
  /-- A span does not end before it starts. -/
  start_le_stop : start ≤ stop
  /-- The dot is at most at the end. -/
  dot_le_length : dot ≤ rhs.length
deriving DecidableEq

namespace Edge

/-- The edge with these parts, if they fit together. -/
def make (start stop : Nat) (lhs : Symbol) (rhs : List Symbol) (dot : Nat) :
    Except EdgeError Edge :=
  if hspan : start ≤ stop then
    if hdot : dot ≤ rhs.length then .ok ⟨start, stop, lhs, rhs, dot, hspan, hdot⟩
    else .error (.dotPastEnd dot rhs.length)
  else .error (.startAfterStop start stop)

/-- The lexical edge of the token that starts at `start`. -/
def lexical (start : Nat) (token : Symbol) : Edge :=
  ⟨start, start + 1, token, [], 0, Nat.le_succ start, Nat.le_refl 0⟩

/-- The lexical edge of a token, if the position after the token fits into 64 bits. -/
def scan (start : Nat) (token : Symbol) : Except EdgeError Edge :=
  if start + 1 < UInt64.size then .ok (lexical start token) else .error .positionOverflow

/-- The edge for a rule whose first symbol was recognized over a span. -/
def predicted (start stop : Nat) (r : Rule) : Except EdgeError Edge :=
  make start stop r.lhs r.rhs 1

/-- **An edge is made exactly from parts that fit together.** -/
theorem make_eq_ok_iff {start stop : Nat} {lhs : Symbol} {rhs : List Symbol} {dot : Nat} {e : Edge} :
    make start stop lhs rhs dot = .ok e ↔
      e.start = start ∧ e.stop = stop ∧ e.lhs = lhs ∧ e.rhs = rhs ∧ e.dot = dot := by
  constructor
  · intro h
    unfold make at h
    split at h
    · split at h
      · cases h
        exact ⟨rfl, rfl, rfl, rfl, rfl⟩
      · cases h
    · cases h
  · rintro ⟨rfl, rfl, rfl, rfl, rfl⟩
    rw [make, dif_pos e.start_le_stop, dif_pos e.dot_le_length]

theorem predicted_eq_ok_iff {start stop : Nat} {r : Rule} {e : Edge} :
    predicted start stop r = .ok e ↔
      e.start = start ∧ e.stop = stop ∧ e.lhs = r.lhs ∧ e.rhs = r.rhs ∧ e.dot = 1 :=
  make_eq_ok_iff

/-- A rule can be predicted over every span. -/
theorem exists_predicted {start stop : Nat} (h : start ≤ stop) (r : Rule) :
    ∃ e, predicted start stop r = .ok e :=
  ⟨⟨start, stop, r.lhs, r.rhs, 1, h, List.length_pos_iff.mpr r.rhs_ne_nil⟩,
    predicted_eq_ok_iff.mpr ⟨rfl, rfl, rfl, rfl, rfl⟩⟩

/-! ## Parts -/

/-- The whole right-hand side was recognized. -/
def isPassive (e : Edge) : Bool := e.dot == e.rhs.length

/-- A symbol is still expected. -/
def isActive (e : Edge) : Bool := !e.isPassive

/-- The edge stands for a token. -/
def isLexical (e : Edge) : Bool := e.rhs.isEmpty

/-- The symbol that the edge expects next. -/
def next? (e : Edge) : Option Symbol := e.rhs[e.dot]?

/-- The rule of the edge; a lexical edge has none. -/
def rule? (e : Edge) : Option Rule :=
  if h : e.rhs = [] then none else some ⟨e.lhs, e.rhs, h⟩

theorem isPassive_iff {e : Edge} : e.isPassive = true ↔ e.dot = e.rhs.length := by
  simp [isPassive]

theorem isActive_iff {e : Edge} : e.isActive = true ↔ e.dot < e.rhs.length := by
  have := e.dot_le_length
  simp [isActive, isPassive]
  omega

/-- A passive edge expects nothing, and an active one a symbol. -/
theorem next?_eq_none_iff {e : Edge} : e.next? = none ↔ e.isPassive = true := by
  have := e.dot_le_length
  rw [next?, List.getElem?_eq_none_iff, isPassive_iff]
  omega

/-- The rule of an edge has its two sides. -/
theorem rule?_eq_some_iff {e : Edge} {r : Rule} :
    e.rule? = some r ↔ r.lhs = e.lhs ∧ r.rhs = e.rhs := by
  unfold rule?
  constructor
  · intro h
    split at h
    · cases h
    · cases h
      exact ⟨rfl, rfl⟩
  · rintro ⟨hlhs, hrhs⟩
    rw [dif_neg (hrhs ▸ r.rhs_ne_nil)]
    cases r
    cases hlhs
    cases hrhs
    rfl

theorem isActive_of_next? {e : Edge} {s : Symbol} (h : e.next? = some s) : e.isActive = true :=
  isActive_iff.mpr (List.getElem?_eq_some_iff.mp h).1

/-! ## Advancing the dot -/

/-- The active edge with its expected symbol recognized up to `stop`. -/
def advance (e : Edge) (stop : Nat) : Except EdgeError Edge :=
  if e.isPassive then .error .passive else make e.start stop e.lhs e.rhs (e.dot + 1)

/-- **Advancing moves the dot over the expected symbol** and the end to a position behind it. -/
theorem advance_eq_ok_iff {w e : Edge} {stop : Nat} :
    w.advance stop = .ok e ↔ w.isActive = true ∧
      e.start = w.start ∧ e.stop = stop ∧ e.lhs = w.lhs ∧ e.rhs = w.rhs ∧ e.dot = w.dot + 1 := by
  unfold advance
  by_cases h : w.isPassive = true
  · simp [h, isActive]
  · simp [h, isActive, make_eq_ok_iff]

/-- An active edge can be advanced to every position behind its start. -/
theorem exists_advance {w : Edge} {stop : Nat} (hw : w.isActive = true) (h : w.start ≤ stop) :
    ∃ e, w.advance stop = .ok e :=
  ⟨⟨w.start, stop, w.lhs, w.rhs, w.dot + 1, h, isActive_iff.mp hw⟩,
    advance_eq_ok_iff.mpr ⟨hw, rfl, rfl, rfl, rfl, rfl⟩⟩

/-- The edge advanced to each of the given positions in turn. -/
def advanceAll (e : Edge) (stops : List Nat) : Except EdgeError Edge := stops.foldlM advance e

/-! ## Order -/

instance : Ord Edge :=
  ⟨compareLex (compareOn start) <| compareLex (compareOn stop) <| compareLex (compareOn lhs) <|
    compareLex (compareOn rhs) (compareOn dot)⟩

instance : TransOrd Edge :=
  inferInstanceAs (TransCmp (compareLex (compareOn start) <| compareLex (compareOn stop) <|
    compareLex (compareOn lhs) <| compareLex (compareOn rhs) (compareOn dot)))

instance : LawfulEqOrd Edge where
  eq_of_compare {a b} h := by
    obtain ⟨hstart, h⟩ := compareLex_eq_eq.mp h
    obtain ⟨hstop, h⟩ := compareLex_eq_eq.mp h
    obtain ⟨hlhs, h⟩ := compareLex_eq_eq.mp h
    obtain ⟨hrhs, hdot⟩ := compareLex_eq_eq.mp h
    have hstart : a.start = b.start :=
      LawfulEqOrd.eq_of_compare (show compare a.start b.start = .eq from hstart)
    have hstop : a.stop = b.stop :=
      LawfulEqOrd.eq_of_compare (show compare a.stop b.stop = .eq from hstop)
    have hlhs : a.lhs = b.lhs := LawfulEqOrd.eq_of_compare (show compare a.lhs b.lhs = .eq from hlhs)
    have hrhs : a.rhs = b.rhs := LawfulEqOrd.eq_of_compare (show compare a.rhs b.rhs = .eq from hrhs)
    have hdot : a.dot = b.dot := LawfulEqOrd.eq_of_compare (show compare a.dot b.dot = .eq from hdot)
    exact Edge.ext hstart hstop hlhs hrhs hdot

/-! ## Printing -/

/-- The symbols, each behind a space, with a dot behind the first `dot` of them. -/
def dotted : (dot : Nat) → List Symbol → String
  | 0, symbols => " ." ++ spaced symbols
  | _ + 1, [] => ""
  | dot + 1, s :: rest => " " ++ s ++ dotted dot rest

/-- The printed edge: `[0-2: S --> NP . VP]`. -/
def display (e : Edge) : String :=
  "[" ++ toString e.start ++ "-" ++ toString e.stop ++ ": " ++ e.lhs ++ " -->" ++
    dotted e.dot e.rhs ++ "]"

end Edge

end ChartParsing
