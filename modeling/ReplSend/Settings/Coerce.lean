import ReplSend.Settings.Value
import ReplSend.Text.Numeral

/-!
# From raw values to settings

Texts are never made from other values. Truth values, integers and numbers may also be written as
texts or as one another, as long as nothing is lost.
-/

namespace ReplSend

/-- What is wrong with the value of a field. -/
inductive FieldFault where
  | notText
  | notList
  | notBool
  | badBool
  | notInt
  | badInt
  | fraction
  | notFloat
  | badFloat
  | belowLeast
  | notAboveLeast
  | notChoice
  /-- The value is refused by a rule of its own. -/
  | refused
  /-- The rule cannot deal with the value, and no report is made of any field. -/
  | excessive
  deriving DecidableEq, Repr

def FieldFault.name : FieldFault → Text
  | notText => "string_type"
  | notList => "list_type"
  | notBool => "bool_type"
  | badBool => "bool_parsing"
  | notInt => "int_type"
  | badInt => "int_parsing"
  | fraction => "int_from_float"
  | notFloat => "float_type"
  | badFloat => "float_parsing"
  | belowLeast => "greater_than_equal"
  | notAboveLeast => "greater_than"
  | notChoice => "literal_error"
  | refused => "value_error"
  | excessive => []

namespace Coerce

/-- The text without underscores, which may only stand alone and between other characters. -/
def withoutUnderscores? (t : Text) : Option Text :=
  if t.head? = some '_' ∨ t.getLast? = some '_' ∨ Text.hasPart "__" t then none
  else some (t.filter (· != '_'))

def text : Value → Except FieldFault Text
  | .text t => .ok t
  | _ => .error .notText

def trueWords : List Text := ["1", "true", "t", "yes", "y", "on"]
def falseWords : List Text := ["0", "false", "f", "no", "n", "off"]

def bool : Value → Except FieldFault Bool
  | .bool b => .ok b
  | .int n => if n = 1 then .ok true else if n = 0 then .ok false else .error .badBool
  | .float x => if x == 1.0 then .ok true else if x == 0.0 then .ok false else .error .badBool
  | .text t =>
    if trueWords.contains (Text.lowerAscii t) then .ok true
    else if falseWords.contains (Text.lowerAscii t) then .ok false
    else .error .badBool
  | _ => .error .notBool

/-- The integer that a text writes, perhaps with zeros behind a point. -/
def readInt? (t : Text) : Option Int := do
  let t := Text.trimBoth Text.isMargin t
  let (negative, t) := match t with
    | '-' :: t => (true, t)
    | '+' :: t => (false, t)
    | t => (false, t)
  let whole := t.takeWhile (· != '.')
  let zeros := (t.dropWhile (· != '.')).drop 1
  let digits ← withoutUnderscores? whole
  if digits.isEmpty || !digits.all Char.isDigit || !zeros.all (· == '0') then none
  else
    let n : Int := Decimal.valueOf digits
    return if negative then -n else n

/-- The integer equal to a number, if there is one. -/
def integral? (x : Float) : Option Int := do
  let b ← Decimal.binary? x
  let magnitude ← if b.q < 0 then
      let den := Nat.pow 2 (-b.q).toNat
      if b.m % den = 0 then some (b.m / den) else none
    else some (b.m * Nat.pow 2 b.q.toNat)
  return if b.negative then -(magnitude : Int) else magnitude

def int : Value → Except FieldFault Int
  | .bool b => .ok (if b then 1 else 0)
  | .int n => .ok n
  | .float x =>
    match integral? x with
    | some n => .ok n
    | none => .error .fraction
  | .text t =>
    match readInt? t with
    | some n => .ok n
    | none => .error .badInt
  | _ => .error .notInt

def readFloat? (t : Text) : Option Float :=
  let t := Text.trimBoth Text.isMargin t
  (Decimal.read? t).orElse fun _ => (withoutUnderscores? t).bind Decimal.read?

def float : Value → Except FieldFault Float
  | .bool b => .ok (if b then 1.0 else 0.0)
  | .int n => .ok (Float.ofInt n)
  | .float x => .ok x
  | .text t =>
    match readFloat? t with
    | some x => .ok x
    | none => .error .badFloat
  | _ => .error .notFloat

end Coerce

end ReplSend
