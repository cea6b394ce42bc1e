import ReplSend.Text.Blank
import ReplSend.Text.Decimal
import ReplSend.Text.Digit

/-!
# Numerals

Numbers as people type them: with blanks around them, digits of any script, and single underscores
between digits.
-/

namespace ReplSend.Text

/-- White space around a written number; the information separators do not count. -/
def isMargin (c : Char) : Bool := isBlank c && !(0x1c ≤ c.toNat && c.toNat ≤ 0x1f)

/-- The text with ASCII digits for those of other scripts. -/
def withAsciiDigits (t : Text) : Text :=
  t.map fun c => (digitValue? c).elim c Nat.digitChar

/-- The text without its underscores, each of which has to stand between two digits. -/
def ungrouped? (afterDigit : Bool) : Text → Option Text
  | [] => some []
  | c :: cs =>
    if c = '_' then
      if afterDigit && cs.head?.any Char.isDigit then ungrouped? false cs else none
    else (ungrouped? c.isDigit cs).map (c :: ·)

/-- The bare numeral of a typed number. -/
def numeral? (t : Text) : Option Text := ungrouped? false (withAsciiDigits (trimBoth isMargin t))

/-- Decimal digits, at least one. -/
def natural? (t : Text) : Option Nat :=
  if t.isEmpty || !t.all Char.isDigit then none else some (Decimal.valueOf t)

/-- The integer that was typed. -/
def typedInt? (t : Text) : Option Int := do
  match ← numeral? t with
  | '-' :: ds => return -((← natural? ds : Nat) : Int)
  | '+' :: ds => return ((← natural? ds : Nat) : Int)
  | ds => return ((← natural? ds : Nat) : Int)

/-- The number that was typed. -/
def typedFloat? (t : Text) : Option Float := (numeral? t).bind Decimal.read?

end ReplSend.Text
