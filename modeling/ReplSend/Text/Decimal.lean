import ReplSend.Text.Basic

/-!
# Decimal texts of floating-point numbers

`shortest` writes the fewest digits that read back as the same number, and of those the nearest;
`fixed` writes a given number of places, rounded from the exact value. Both work on the exact
value of the number, a fraction of natural numbers. `read?` reads a number.
-/

namespace ReplSend.Decimal

/-- A finite number: `m · 2 ^ q`, possibly negative. -/
structure Binary where
  negative : Bool
  m : Nat
  q : Int
  deriving DecidableEq, Repr

/-- The bit in front of the fraction of a number that is not tiny. -/
def leading : Nat := Nat.pow 2 52

/-- The exact value of a finite number; nothing for infinities and for what is not a number. -/
def binary? (x : Float) : Option Binary :=
  let bits : Nat := x.toBits.toNat
  let negative := bits / Nat.pow 2 63 == 1
  let exponent : Nat := bits / leading % Nat.pow 2 11
  let fraction : Nat := bits % leading
  if exponent = 2047 then none
  else if exponent = 0 then some ⟨negative, fraction, -1074⟩
  else some ⟨negative, leading + fraction, (exponent : Int) - 1075⟩

/-- A non-negative fraction. -/
structure Ratio where
  num : Nat
  den : Nat

namespace Ratio

/-- `m · 2 ^ q` -/
def ofBinary (m : Nat) (q : Int) : Ratio :=
  if q < 0 then ⟨m, Nat.pow 2 (-q).toNat⟩ else ⟨m * Nat.pow 2 q.toNat, 1⟩

/-- The fraction times `10 ^ p`. -/
def scale (r : Ratio) (p : Int) : Ratio :=
  if p < 0 then ⟨r.num, r.den * Nat.pow 10 (-p).toNat⟩ else ⟨r.num * Nat.pow 10 p.toNat, r.den⟩

def floor (r : Ratio) : Nat := r.num / r.den

def lt (a b : Ratio) : Bool := Nat.blt (a.num * b.den) (b.num * a.den)

/-- The distance between two fractions. -/
def distance (a b : Ratio) : Ratio :=
  let x := a.num * b.den
  let y := b.num * a.den
  ⟨max x y - min x y, a.den * b.den⟩

/-- The nearest natural number, of two the even one. -/
def round (r : Ratio) : Nat :=
  let n := r.num / r.den
  let twice := 2 * (r.num % r.den)
  if twice < r.den then n
  else if r.den < twice then n + 1
  else if n % 2 = 0 then n else n + 1

end Ratio

/-- The least number of places, from `j` on, that brings the fraction to one or more. -/
def firstPlace (r : Ratio) : (limit j : Nat) → Nat
  | 0, j => j
  | limit + 1, j => if r.num * Nat.pow 10 j < r.den then firstPlace r limit (j + 1) else j

/-- The exponent of the first decimal digit of a positive fraction. -/
def exponent (r : Ratio) : Int :=
  if r.den ≤ r.num then ((Text.ofNat r.floor).length : Int) - 1
  else -(firstPlace r 400 1 : Int)

/-- The numbers that are rounded to the same `m · 2 ^ q`: the bounds, which count in when `m` is
even. -/
structure Interval where
  low : Ratio
  high : Ratio
  closed : Bool

def Interval.around (m : Nat) (q : Int) : Interval :=
  let low := if m = leading ∧ q > -1074 then Ratio.ofBinary (4 * m - 1) (q - 2)
    else Ratio.ofBinary (2 * m - 1) (q - 1)
  ⟨low, Ratio.ofBinary (2 * m + 1) (q - 1), m % 2 == 0⟩

def Interval.contains (i : Interval) (r : Ratio) : Bool :=
  if i.closed then !r.lt i.low && !i.high.lt r else i.low.lt r && r.lt i.high

/-- The number of `n` digits next to the value that lies in the interval, if one does; of two the
nearer, of two equally near the even one. -/
def digits? (value : Ratio) (i : Interval) (n : Nat) : Option (Nat × Int) :=
  let p := (n : Int) - 1 - exponent value
  let d := (value.scale p).floor
  let at_ (d : Nat) : Ratio := Ratio.scale ⟨d, 1⟩ (-p)
  match i.contains (at_ d) && 0 < d, i.contains (at_ (d + 1)) with
  | true, true =>
    let below := value.distance (at_ d)
    let above := value.distance (at_ (d + 1))
    if below.lt above then some (d, p)
    else if above.lt below then some (d + 1, p)
    else if d % 2 = 0 then some (d, p) else some (d + 1, p)
  | true, false => some (d, p)
  | false, true => some (d + 1, p)
  | false, false => none

/-- How a shortest decimal is laid out: exponents from `least` on and below `most` are written
positionally, whole numbers get a point and a zero. -/
def layout (least most : Int) (ds : Text) (exponent : Int) : Text :=
  if least ≤ exponent ∧ exponent < most then
    if exponent < 0 then "0." ++ List.replicate (-exponent - 1).toNat '0' ++ ds
    else
      let whole := exponent.toNat + 1
      if ds.length ≤ whole then ds ++ List.replicate (whole - ds.length) '0' ++ (".0" : Text)
      else ds.take whole ++ '.' :: ds.drop whole
  else
    let mantissa := match ds with
      | [d] => [d]
      | d :: ds => d :: '.' :: ds
      | [] => []
    let e := Text.ofNat exponent.natAbs
    mantissa ++ ['e', if exponent < 0 then '-' else '+'] ++
      (if e.length < 2 then '0' :: e else e)

/-- The digits of a number without the zeros at its end. -/
def significant (d : Nat) : Text := Text.dropEndWhile (· == '0') (Text.ofNat d)

/-- The shortest text that reads back as the number. -/
def shortest (x : Float) : Text :=
  match binary? x with
  | none => if x.isNaN then "nan" else if x < 0 then "-inf" else "inf"
  | some b =>
    let sign : Text := if b.negative then ['-'] else []
    if b.m = 0 then sign ++ ("0.0" : Text)
    else
      let value := Ratio.ofBinary b.m b.q
      match (List.range' 1 17).findSome? (digits? value (.around b.m b.q)) with
      | some (d, p) =>
        -- the number is `d · 10 ^ (-p)`
        sign ++ layout (-4) 16 (significant d) ((Text.ofNat d).length - 1 - p)
      | none => sign

/-- The number with this many decimal places, rounded from its exact value. -/
def fixed (places : Nat) (x : Float) : Text :=
  match binary? x with
  | none => if x.isNaN then "nan" else if x < 0 then "-inf" else "inf"
  | some b =>
    let n := ((Ratio.ofBinary b.m b.q).scale places).round
    let ds := Text.ofNat n
    let ds := List.replicate (places + 1 - ds.length) '0' ++ ds
    (if b.negative then ['-'] else []) ++
      if places = 0 then ds else ds.take (ds.length - places) ++ '.' :: ds.drop (ds.length - places)

/-! ### Reading -/

/-- The digits at the start of a text, and the rest. -/
def span (t : Text) : Text × Text := (t.takeWhile Char.isDigit, t.dropWhile Char.isDigit)

def valueOf (ds : Text) : Nat := Text.natOfDigits (ds.map fun c => c.toNat - '0'.toNat)

/-- The exponent that a text consists of. -/
def exponent? : Text → Option Int
  | [] => some 0
  | e :: t =>
    if e = 'e' ∨ e = 'E' then
      let (negative, t) := match t with
        | '-' :: t => (true, t)
        | '+' :: t => (false, t)
        | t => (false, t)
      let (ds, rest) := span t
      if ds.isEmpty || !rest.isEmpty then none
      else some (if negative then -(valueOf ds : Int) else valueOf ds)
    else none

/-- A number in digits, with a point or an exponent if any, but no sign. -/
def unsigned? (t : Text) : Option Float :=
  let lower := t.map Char.toLower
  if lower = "inf" ∨ lower = "infinity" then some (1.0 / 0.0)
  else if lower = "nan" then some (0.0 / 0.0)
  else
    let (whole, rest) := span t
    let (fraction, rest) := match rest with
      | '.' :: rest => span rest
      | rest => ([], rest)
    if whole.isEmpty && fraction.isEmpty then none
    else (exponent? rest).map fun written =>
      let ds := whole ++ fraction
      let e : Int := written - (fraction.length : Int)
      -- beyond these bounds the number is infinite or zero
      Float.ofScientific (valueOf ds) (e < 0) (min e.natAbs (ds.length + 400))

/-- The number that a text writes. -/
def read? : Text → Option Float
  | '-' :: t => (unsigned? t).map fun x => -x
  | '+' :: t => unsigned? t
  | t => unsigned? t

end ReplSend.Decimal
