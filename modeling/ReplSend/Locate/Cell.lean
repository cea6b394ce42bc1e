import ReplSend.Locate.Fault

/-!
# Cells and regions

A cell is the run of lines between two boundary lines. Which lines are boundaries, and which of
them begin a cell of code, is given by two predicates on the text of a line. A region is the run
of lines that a selection touches.
-/

namespace ReplSend

/-- The default pattern of boundary lines. -/
def Cell.boundaryRegexp : Text :=
  "^(?:##.*|#\\s*<.+>|#\\s*(?:In|Out)\\[.*\\]:|#\\s*%%.*)\\s*$"

/-- The default pattern of the boundary lines that begin a cell of code. -/
def Cell.beginningRegexp : Text :=
  "^(?:##.*|#\\s*<codecell>|#\\s*In\\[.*\\]:|#\\s*%%.*)\\s*$"

namespace Outline

/-- The last line from `first` on that is not in the trailing run of blank lines; the line before
`first` if there is none. -/
def lastNonBlank (o : Outline) (first : Nat) : Nat :=
  match o.lastBefore (fun r => !r.isBlank) o.count with
  | some i => max i (first - 1)
  | none => first - 1

/-- The cell around line `i`. -/
def cell (o : Outline) (boundary beginning : Text → Bool) (i : Nat) : Except LocateFault Block :=
  match o.lastUpTo (fun r => boundary r.text) i with
  | none => .error .noCell
  | some b =>
    if !beginning (o.row b).text then .error .noCell
    else
      let first := b + 1
      let last := match o.firstFrom (fun r => boundary r.text) first with
        | some j => j - 1
        | none => o.lastNonBlank first
      if last < first then
        let offset := if first < o.count then o.lineStart first else o.size
        .ok ⟨.cell, offset, offset, first + 1, first⟩
      else .ok (o.block .cell first last)

/-- The lines that the text between two offsets touches. A line that the later offset only
reaches the start of is left out. -/
def region (o : Outline) (a b : Int) : Block :=
  let first := o.lineAt (min a b)
  let last := o.lineAt (max a b)
  let last := if first < last ∧ max a b = o.lineStart last then last - 1 else last
  o.block .region first last

/-- All lines. -/
def whole (o : Outline) : Block := o.block .buffer 0 (o.count - 1)

end Outline

end ReplSend
