import ReplSend.Block

/-!
# Why a unit cannot be located

Either the cursor is outside any such unit, or the search for the unit's bounds went astray. Line
numbers count from one.
-/

namespace ReplSend

inductive LocateFault where
  /-- No code line at or below the cursor. -/
  | noStatement
  /-- The cursor is not below the first line of a cell. -/
  | noCell
  | emptyCell
  /-- No definition of this kind around the cursor. -/
  | noDefinition (kind : BlockKind)
  /-- No unit of this kind around the place that a line number gives. -/
  | noneAround (kind : BlockKind)
  /-- A unit of this kind has no place in a file that a line number could give. -/
  | unplaceable (verb : Text) (kind : BlockKind)
  /-- A clause such as `else` without a statement above it. -/
  | noOpener (line : Nat)
  /-- An indented line without a statement around it. -/
  | unenclosed (line : Nat)
  /-- The climb to the start of a statement did not go up. -/
  | stuck (line : Nat)
  /-- The climb to the start of a statement did not settle. -/
  | unsettled (line : Nat)
  /-- The walk to the end of a statement did not stop. -/
  | endless (line : Nat)
  deriving DecidableEq, Repr

namespace LocateFault

/-- The cursor is outside the unit, as opposed to a search gone astray. -/
def isOutside : LocateFault → Bool
  | noStatement | noCell | emptyCell | noDefinition _ | noneAround _ | unplaceable .. => true
  | noOpener _ | unenclosed _ | stuck _ | unsettled _ | endless _ => false

def message : LocateFault → Text
  | noStatement => "No statement at or after point"
  | noCell => "Not in a codecell"
  | emptyCell => "The codecell is empty"
  | noDefinition .defclass => "There is no class definition around point"
  | noDefinition _ => "There is no function definition around point"
  | noneAround kind => "There is no " ++ kind.name ++ " around point"
  | unplaceable verb kind =>
    "Cannot " ++ verb ++ " a " ++ kind.name ++ " from a line number"
  | noOpener line => "Cannot find the statement opened before line " ++ Text.ofNat line
  | unenclosed line =>
    "Line " ++ Text.ofNat line ++ " is indented but no statement encloses it"
  | stuck line => "Statement start does not move at line " ++ Text.ofNat line
  | unsettled line => "Statement start never stabilized near line " ++ Text.ofNat line
  | endless line => "Statement starting at line " ++ Text.ofNat line ++ " never closes"

end LocateFault

end ReplSend
