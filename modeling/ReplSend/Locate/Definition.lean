import ReplSend.Locate.Statement

/-!
# Definitions

The function or class around a line: the header on the line itself or under the decorators that
start there, else the nearest header above that is less indented than every statement between.
-/

namespace ReplSend.Outline

/-- The line that a stack of decorators at line `i` leads down to. -/
def underDecorators (o : Outline) (i : Nat) : Option Nat :=
  if o.kind i = .decorator then
    match _h : o.nextCode (o.statementStop i + 1) with
    | none => none
    | some j => if o.indent j = o.indent i then underDecorators o j else none
  else some i
termination_by o.count - i
decreasing_by
  have := firstFrom_bounds _h
  have := o.le_statementStop i
  omega

/-- The header that line `i` shows or decorates. -/
def headerOnLine (o : Outline) (i : Nat) (header : LineKind) : Option Nat :=
  if o.continues i then none
  else if o.kind i = header then some i
  else (o.underDecorators i).filter fun j => o.kind j = header

/-- The nearest header from line `i` up to line `floor` that is less indented than the statements
passed on the way; `least` is the least indentation passed so far. -/
def headerAbove (o : Outline) (header : LineKind) (floor : Nat) (least : Option Nat) (i : Nat) :
    Option Nat :=
  if i < floor then none
  else
    let deeper := match least with
      | none => true
      | some n => decide (o.indent i < n)
    let least' := if o.isStatementStart i then
        some (match least with
          | none => o.indent i
          | some n => min n (o.indent i))
      else least
    if o.isStatementStart i && o.kind i = header && deeper then some i
    else
      match i with
      | 0 => none
      | j + 1 => headerAbove o header floor least' j

/-- The header of the definition that encloses line `i`, searched for within the unindented
statement there. -/
def enclosingHeader (o : Outline) (i : Nat) (header : LineKind) : Except LocateFault (Option Nat) :=
  match o.nextCode i with
  | none => .ok none
  | some j =>
    match o.topBounds j with
    | .ok (floor, _) => .ok (o.headerAbove header floor none i)
    | .error e => .error e

/-- The definition with such a header around line `i`, from its topmost decorator on. -/
def definition (o : Outline) (i : Nat) (header : LineKind) : Except LocateFault (Option Block) := do
  let found ← match o.headerOnLine i header with
    | some h => pure (some h)
    | none => o.enclosingHeader i header
  let kind := if header = .classHeader then BlockKind.defclass else .defun
  return found.map fun h => o.block kind ((o.decoratorAbove h).getD h) (o.blockStop h)

end ReplSend.Outline
