import ReplSend.Pattern.Parse
import ReplSend.Text.Decimal

/-!
# Raw setting values

What a setting may be given as: a value of JSON. `Value.parse?` reads one from a text.
-/

namespace ReplSend

inductive Value where
  | null
  | bool (b : Bool)
  | int (n : Int)
  | float (x : Float)
  | text (t : Text)
  | list (items : List Value)
  | object (fields : List (Text × Value))
  deriving Inhabited

namespace Value

def isSpace (c : Char) : Bool := c == ' ' || c == '\t' || c == '\n' || c == '\r'

def skip (t : Text) : Text := t.dropWhile isSpace

/-- The code unit written after the letter of a Unicode escape. -/
def unit? (t : Text) : Option (Nat × Text) := Pattern.hexadecimal? 4 t

/-- The character for one or two code units, and the text after them. A unit of a pair that
stands alone becomes U+FFFD. -/
def codeUnits (high : Nat) (rest : Text) : Char × Text :=
  if 0xd800 ≤ high ∧ high < 0xdc00 then
    match rest with
    | '\\' :: 'u' :: more =>
      match unit? more with
      | some (low, after) =>
        if 0xdc00 ≤ low ∧ low < 0xe000 then
          (Char.ofNat (0x10000 + (high - 0xd800) * 0x400 + (low - 0xdc00)), after)
        else (Char.ofNat 0xfffd, rest)
      | none => (Char.ofNat 0xfffd, rest)
    | _ => (Char.ofNat 0xfffd, rest)
  else if 0xdc00 ≤ high ∧ high < 0xe000 then (Char.ofNat 0xfffd, rest)
  else (Char.ofNat high, rest)

/-- A string after its opening quote. -/
def string? : (limit : Nat) → Text → Option (Text × Text)
  | 0, _ => none
  | limit + 1, t =>
    match t with
    | '"' :: rest => some ([], rest)
    | '\\' :: 'u' :: rest => do
      let (n, rest) ← unit? rest
      let (c, rest) := codeUnits n rest
      let (cs, rest) ← string? limit rest
      return (c :: cs, rest)
    | '\\' :: e :: rest => do
      let c ← match e with
        | '"' => some '"'
        | '\\' => some '\\'
        | '/' => some '/'
        | 'b' => some '\x08'
        | 'f' => some '\x0c'
        | 'n' => some '\n'
        | 'r' => some '\r'
        | 't' => some '\t'
        | _ => none
      let (cs, rest) ← string? limit rest
      return (c :: cs, rest)
    | c :: rest =>
      if c.toNat < 0x20 || c == '\\' then none
      else do
        let (cs, rest) ← string? limit rest
        return (c :: cs, rest)
    | [] => none

/-- Words that stand for values. -/
def words : List (Text × Value) :=
  [("null", .null), ("true", .bool true), ("false", .bool false), ("NaN", .float (0.0 / 0.0)),
   ("Infinity", .float (1.0 / 0.0)), ("-Infinity", .float (-1.0 / 0.0))]

def word? (t : Text) : Option (Value × Text) :=
  words.findSome? fun (w, v) => (Text.dropOpening? w t).map fun rest => (v, rest)

/-- The part of a number from its point on: the point with digits after it, the exponent. -/
def fractionLength (t : Text) : Nat :=
  let point := match t with
    | '.' :: rest => if (Decimal.span rest).1.isEmpty then 0 else 1 + (Decimal.span rest).1.length
    | _ => 0
  let after := t.drop point
  let exponent := match after with
    | e :: rest =>
      if e = 'e' ∨ e = 'E' then
        let sign := match rest with
          | '+' :: _ => 1
          | '-' :: _ => 1
          | _ => 0
        let ds := (Decimal.span (rest.drop sign)).1
        if ds.isEmpty then 0 else 1 + sign + ds.length
      else 0
    | [] => 0
  point + exponent

def number? (t : Text) : Option (Value × Text) :=
  let (negative, u) := match t with
    | '-' :: u => (true, u)
    | u => (false, u)
  let ds := match u with
    | '0' :: _ => ['0']
    | u => (Decimal.span u).1
  if ds.isEmpty then none
  else
    let rest := u.drop ds.length
    let n := fractionLength rest
    if n = 0 then
      let v : Int := Decimal.valueOf ds
      some (.int (if negative then -v else v), rest)
    else (Decimal.unsigned? (ds ++ rest.take n)).map fun x =>
      (.float (if negative then -x else x), rest.drop n)

/-- What is to be read next. -/
inductive Goal where
  | value
  /-- The items of a list after the ones read, the latest first. -/
  | items (read : List Value)
  /-- The fields of an object after the ones read, the latest first. -/
  | fields (read : List (Text × Value))

/-- Reads a value, or the rest of one. `limit` bounds the number of steps. -/
def read? : (limit : Nat) → Goal → Text → Option (Value × Text)
  | 0, _, _ => none
  | limit + 1, .value, t =>
    match t with
    | '"' :: rest => (string? (rest.length + 1) rest).map fun (s, rest) => (.text s, rest)
    | '[' :: rest =>
      match skip rest with
      | ']' :: rest => some (.list [], rest)
      | rest => read? limit (.items []) rest
    | '\x7b' :: rest =>
      match skip rest with
      | '\x7d' :: rest => some (.object [], rest)
      | rest => read? limit (.fields []) rest
    | t => (word? t).orElse fun _ => number? t
  | limit + 1, .items done, t => do
    let (v, rest) ← read? limit .value (skip t)
    match skip rest with
    | ',' :: rest => read? limit (.items (v :: done)) rest
    | ']' :: rest => return (.list (v :: done).reverse, rest)
    | _ => none
  | limit + 1, .fields done, t =>
    match skip t with
    | '"' :: rest => do
      let (k, rest) ← string? (rest.length + 1) rest
      match skip rest with
      | ':' :: rest =>
        let (v, rest) ← read? limit .value (skip rest)
        match skip rest with
        | ',' :: rest => read? limit (.fields ((k, v) :: done)) rest
        | '\x7d' :: rest => return (.object ((k, v) :: done).reverse, rest)
        | _ => none
      | _ => none
    | _ => none

/-- The value that a text writes. -/
def parse? (t : Text) : Option Value :=
  match read? (2 * t.length + 2) .value (skip t) with
  | some (v, rest) => if (skip rest).isEmpty then some v else none
  | none => none

end Value

end ReplSend
