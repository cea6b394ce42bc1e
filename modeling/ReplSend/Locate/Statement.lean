import ReplSend.Locate.Fault

/-!
# Statements

The bounds of a statement, found from line kinds, indentation and continuation alone. The start is
found by climbing: from a clause such as `else` to the statement it goes on with, from a
definition to its topmost decorator. The end is found by walking down over the clauses that follow
and over what a decorator decorates. Both walks carry a limit of one more than the number of
lines.
-/

namespace ReplSend.Outline

/-! ### The block under a line -/

/-- Extends a block that ends at `stop` over the deeper statements from line `i` on. -/
def blockStopFrom (o : Outline) (base stop i : Nat) : Nat :=
  if i < o.count then
    if !o.isStatementStart i then blockStopFrom o base stop (i + 1)
    else if o.indent i ≤ base then stop
    else blockStopFrom o base (o.statementStop i) (i + 1)
  else stop
termination_by o.count - i

/-- The last line of the statement at `start` and of everything nested in it. -/
def blockStop (o : Outline) (start : Nat) : Nat :=
  o.blockStopFrom (o.indent start) (o.statementStop start) (o.statementStop start + 1)

/-! ### Neighbours of a statement -/

/-- The statement line at or above the last code line before `i`. -/
def previousStatement (o : Outline) (i : Nat) : Option Nat :=
  (o.lastBefore Row.isCode i).map o.statementStart

theorem previousStatement_lt {o : Outline} {i j : Nat} (h : o.previousStatement i = some j) :
    j < i := by
  obtain ⟨k, hk, rfl⟩ := Option.map_eq_some_iff.1 h
  exact Nat.lt_of_le_of_lt (o.statementStart_le k) (lastBefore_lt hk)

/-- The statement that follows the block of `start`, if it is equally indented. -/
def nextSibling (o : Outline) (start : Nat) : Option Nat :=
  (o.firstFrom Row.isStatementStart (o.blockStop start + 1)).filter
    fun i => o.indent i = o.indent start

/-- The equally indented statement above `start`, with nothing less indented between. -/
def previousSibling (o : Outline) (start : Nat) : Option Nat :=
  (o.lastBefore (fun r => r.isStatementStart && r.indent ≤ o.indent start) start).filter
    fun i => o.indent i = o.indent start

/-- The topmost of the decorators at `column` stacked directly above line `i`; `found` if there
is none. -/
def topDecorator (o : Outline) (column : Nat) (found : Option Nat) (i : Nat) : Option Nat :=
  match _h : o.previousStatement i with
  | none => found
  | some j =>
    if o.kind j = .decorator ∧ o.indent j = column then topDecorator o column (some j) j
    else found
termination_by i
decreasing_by exact previousStatement_lt _h

/-- The topmost of the equally indented decorators stacked directly above `start`. -/
def decoratorAbove (o : Outline) (start : Nat) : Option Nat :=
  o.topDecorator (o.indent start) none start

/-! ### The start of a statement -/

/-- Where the statement that starts at `start` really starts, one step up: a clause belongs to
the sibling above it, a definition to its decorators. -/
def climb (o : Outline) (start : Nat) : Except LocateFault (Option Nat) :=
  match o.kind start with
  | .clause =>
    match o.previousSibling start with
    | none => .error (.noOpener (start + 1))
    | some j => .ok (some j)
  | .defHeader | .classHeader => .ok (o.decoratorAbove start)
  | _ => .ok none

/-- Climbs until no step is left, at most `limit` times; `line` is where the climb began. -/
def settle (o : Outline) (line : Nat) : (limit : Nat) → Nat → Except LocateFault Nat
  | 0, _ => .error (.unsettled (line + 1))
  | limit + 1, start =>
    match o.climb start with
    | .error e => .error e
    | .ok none => .ok start
    | .ok (some j) => if start ≤ j then .error (.stuck (start + 1)) else settle o line limit j

/-- The first line of the statement around line `i`. -/
def resolveStart (o : Outline) (i : Nat) : Except LocateFault Nat :=
  o.settle i (o.count + 1) (o.statementStart i)

theorem settle_le {o : Outline} {line limit start s : Nat}
    (h : o.settle line limit start = .ok s) : s ≤ start := by
  fun_induction settle o line limit start with
  | case1 => simp at h
  | case2 => simp at h
  | case3 => simp at h; omega
  | case4 => simp at h
  | case5 _ _ _ _ _ ih => have := ih h; omega

theorem resolveStart_le {o : Outline} {i s : Nat} (h : o.resolveStart i = .ok s) : s ≤ i :=
  Nat.le_trans (settle_le h) (o.statementStart_le i)

/-! ### The end of a statement -/

/-- Walks down over the siblings that belong to the statement `first`, at most `limit` times. -/
def closing (o : Outline) (first : Nat) : (limit : Nat) → Nat → Except LocateFault Nat
  | 0, _ => .error (.endless (first + 1))
  | limit + 1, current =>
    match o.nextSibling current with
    | some j =>
      if o.kind j = .clause ∨ o.kind current = .decorator then closing o first limit j
      else .ok (o.blockStop current)
    | none => .ok (o.blockStop current)

/-- The last line of the statement that starts at `start`. -/
def statementEnd (o : Outline) (start : Nat) : Except LocateFault Nat :=
  o.closing start (o.count + 1) start

/-! ### Statements at the left margin -/

/-- The first line of the unindented statement around the statement at `start`. -/
def topStartFrom (o : Outline) (start : Nat) : Except LocateFault Nat :=
  if o.indent start = 0 then .ok start
  else
    match _hp : o.lastBefore Row.isCode start with
    | none => .error (.unenclosed (start + 1))
    | some j =>
      match _hr : o.resolveStart j with
      | .error e => .error e
      | .ok s => topStartFrom o s
termination_by start
decreasing_by exact Nat.lt_of_le_of_lt (resolveStart_le _hr) (lastBefore_lt _hp)

theorem topStartFrom_le {o : Outline} {start s : Nat} (h : o.topStartFrom start = .ok s) :
    s ≤ start := by
  fun_induction topStartFrom o start with
  | case1 => simp at h; omega
  | case2 => simp at h
  | case3 => simp at h
  | case4 start _ j hp t hr ih =>
    have := ih h
    have := resolveStart_le hr
    have := lastBefore_lt hp
    omega

/-- The first and the last line of the unindented statement around line `i`. -/
def topBounds (o : Outline) (i : Nat) : Except LocateFault (Nat × Nat) := do
  let s ← o.topStartFrom (← o.resolveStart i)
  let e ← o.statementEnd s
  return (s, e)

theorem topBounds_le {o : Outline} {i s e : Nat} (h : o.topBounds i = .ok (s, e)) : s ≤ i := by
  simp only [topBounds, bind, Except.bind, pure, Except.pure] at h
  split at h
  · simp at h
  · rename_i r hr
    split at h
    · simp at h
    · rename_i t ht
      split at h
      · simp at h
      · simp only [Except.ok.injEq, Prod.mk.injEq] at h
        have := topStartFrom_le ht
        have := resolveStart_le hr
        omega

/-! ### Locating -/

/-- The code line that stands for line `i`: itself, or the first one below. -/
def codeLine (o : Outline) (i : Nat) : Except LocateFault Nat :=
  match o.nextCode i with
  | some j => .ok j
  | none => .error .noStatement

/-- The statement at or below line `i`. -/
def statement (o : Outline) (i : Nat) : Except LocateFault Block := do
  let s ← o.resolveStart (← o.codeLine i)
  let e ← o.statementEnd s
  return o.block .statement s e

/-- The unindented statement at or below line `i`. -/
def topStatement (o : Outline) (i : Nat) : Except LocateFault Block := do
  let (s, e) ← o.topBounds (← o.codeLine i)
  return o.block .topStatement s e

end ReplSend.Outline
