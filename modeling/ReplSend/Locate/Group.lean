import ReplSend.Locate.Statement

/-!
# Groups

A group is a maximal run of unindented statements with no blank line standing alone between them.
-/

namespace ReplSend.Outline

/-- One of the lines from `first` on and before `stop` is blank and stands alone. -/
def hasBlank (o : Outline) (first stop : Nat) : Bool :=
  (List.range' first (stop - first)).any o.isBlank

/-- The code line below `stop` that belongs to the same group. -/
def joinedBelow (o : Outline) (stop : Nat) : Option Nat :=
  if stop + 1 < o.count ∧ !o.isBlank (stop + 1) then
    (o.nextCode (stop + 1)).filter fun j => !o.hasBlank (stop + 1) j
  else none

/-- The code line above `start` that belongs to the same group. -/
def joinedAbove (o : Outline) (start : Nat) : Option Nat :=
  if 0 < start ∧ !o.isBlank (start - 1) then
    (o.lastBefore Row.isCode start).filter fun j => !o.hasBlank (j + 1) start
  else none

theorem joinedAbove_lt {o : Outline} {start j : Nat} (h : o.joinedAbove start = some j) :
    j < start := by
  unfold joinedAbove at h
  split at h
  · exact lastBefore_lt (Option.filter_eq_some_iff.1 h).1
  · simp at h

/-- The last line of the group, from a statement that ends at `stop` on, at most `limit` times. -/
def groupStop (o : Outline) : (limit : Nat) → Nat → Except LocateFault Nat
  | 0, stop => .error (.endless (stop + 1))
  | limit + 1, stop =>
    match o.joinedBelow stop with
    | none => .ok stop
    | some j =>
      match o.topBounds j with
      | .error e => .error e
      | .ok (_, e) => groupStop o limit e

/-- The first line of the group, from a statement that starts at `start` up. -/
def groupStart (o : Outline) (start : Nat) : Except LocateFault Nat :=
  match _hj : o.joinedAbove start with
  | none => .ok start
  | some j =>
    match _hs : o.topBounds j with
    | .ok (s, _) => groupStart o s
    | .error e => .error e
termination_by start
decreasing_by exact Nat.lt_of_le_of_lt (topBounds_le _hs) (joinedAbove_lt _hj)

/-- The group at or below line `i`. -/
def group (o : Outline) (i : Nat) : Except LocateFault Block := do
  let (s, e) ← o.topBounds (← o.codeLine i)
  let last ← o.groupStop (o.count + 1) e
  let first ← o.groupStart s
  return o.block .group first last

end ReplSend.Outline
