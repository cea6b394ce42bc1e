import ReplSend.Pattern.Basic

/-!
# Characters in patterns

The written forms of single characters and of classes of them: escapes and brackets. A character
may also be written by its name; which names there are is for the caller to say.

A backslash and the character after it are one token wherever a closing mark is looked for.
-/

namespace ReplSend.Pattern

/-! ### Runs of characters -/

/-- The text up to a closing mark, and what follows the mark. -/
def until? (mark : Char) : Text → Option (Text × Text)
  | [] => none
  | c :: rest =>
    if c = mark then some ([], rest)
    else if c = '\\' then
      match rest with
      | [] => none
      | d :: rest => (until? mark rest).map fun (t, rest) => (c :: d :: t, rest)
    else (until? mark rest).map fun (t, rest) => (c :: t, rest)

/-- What follows the line. -/
def skipLine? : Text → Option Text
  | [] => some []
  | c :: rest =>
    if c = '\n' then some rest
    else if c = '\\' then
      match rest with
      | [] => none
      | _ :: rest => skipLine? rest
    else skipLine? rest

/-- The characters of a kind at the start of a text, `n` at most. -/
def run (n : Nat) (kind : Char → Bool) (t : Text) : Text := (t.take n).takeWhile kind

/-! ### Options -/

/-- How a part of a pattern is read and matched. -/
structure Options where
  anyCase : Bool
  multiline : Bool
  dotAll : Bool
  spaced : Bool
  ascii : Bool
  /-- No repetitions. -/
  template : Bool
  deriving DecidableEq, Repr

namespace Options

def plain : Options := ⟨false, false, false, false, false, false⟩

def set (o : Options) (value : Bool) : Char → Options
  | 'i' => { o with anyCase := value }
  | 'm' => { o with multiline := value }
  | 's' => { o with dotAll := value }
  | 'x' => { o with spaced := value }
  | 'a' => { o with ascii := value }
  | 'u' => { o with ascii := !value }
  | 't' => { o with template := value }
  | _ => o

def casing (o : Options) : Casing :=
  if o.anyCase then if o.ascii then .ascii else .unicode else .exact

def isLetter (c : Char) : Bool := ['i', 'm', 's', 'x', 'a', 'u', 't'].contains c

/-- The letters that choose the alphabet; at most one may be given, and none taken back. -/
def isAlphabet (c : Char) : Bool := c == 'a' || c == 'u'

end Options

/-! ### Escapes -/

def hexValue? (c : Char) : Option Nat :=
  if c.isDigit then some (c.toNat - '0'.toNat)
  else if 'a' ≤ c ∧ c ≤ 'f' then some (c.toNat - 'a'.toNat + 10)
  else if 'A' ≤ c ∧ c ≤ 'F' then some (c.toNat - 'A'.toNat + 10)
  else none

/-- The code point written with exactly `n` hexadecimal digits. -/
def hexadecimal? (n : Nat) (t : Text) : Option (Nat × Text) := do
  let digits ← (t.take n).mapM hexValue?
  if digits.length = n then
    let code := digits.foldl (fun v d => 16 * v + d) 0
    if code < 0x110000 then return (code, t.drop n)
  none

def isOctal (c : Char) : Bool := '0' ≤ c && c ≤ '7'

def octalValue (t : Text) : Nat := t.foldl (fun v c => 8 * v + (c.toNat - '0'.toNat)) 0

def decimalValue (t : Text) : Nat := t.foldl (fun v c => 10 * v + (c.toNat - '0'.toNat)) 0

/-- The character of a name in braces. -/
def named? (named : Text → Option Char) : Text → Option (Nat × Text)
  | [] => none
  | c :: rest =>
    if c = '{' then (until? '}' rest).bind fun (name, rest) =>
      if name.isEmpty then none else (named name).map fun x => (x.toNat, rest)
    else none

/-- The control character with an escape letter of its own. -/
def control? : Char → Option Char
  | 'a' => some '\x07'
  | 'f' => some '\x0c'
  | 'n' => some '\n'
  | 'r' => some '\r'
  | 't' => some '\t'
  | 'v' => some '\x0b'
  | '\\' => some '\\'
  | _ => none

/-- The category with an escape letter of its own, and whether it is turned round. -/
def category? : Char → Option (Category × Bool)
  | 'd' => some (.digit, false)
  | 'D' => some (.digit, true)
  | 's' => some (.blank, false)
  | 'S' => some (.blank, true)
  | 'w' => some (.word, false)
  | 'W' => some (.word, true)
  | _ => none

/-- The code point of an escape other than a category, an anchor or digits, after the backslash. -/
def codeEscape? (named : Text → Option Char) (c : Char) (rest : Text) : Option (Nat × Text) :=
  match control? c with
  | some x => some (x.toNat, rest)
  | none =>
    if c = 'x' then hexadecimal? 2 rest
    else if c = 'u' then hexadecimal? 4 rest
    else if c = 'U' then hexadecimal? 8 rest
    else if c = 'N' then named? named rest
    else if c.isAlpha then none
    else if c.isDigit then none
    else some (c.toNat, rest)

/-- An escape within a class. -/
def classEscape? (named : Text → Option Char) (ascii : Bool) (c : Char) (rest : Text) :
    Option (ClassItem × Text) :=
  match category? c with
  | some (k, negated) => some (.category k negated ascii, rest)
  | none =>
    if c = 'b' then some (.range 8 8, rest)
    else if isOctal c then
      let more := run 2 isOctal rest
      let code := octalValue (c :: more)
      if code > 0o377 then none else some (.range code code, rest.drop more.length)
    else (codeEscape? named c rest).map fun (code, rest) => (.range code code, rest)

/-- What stands before a quantifier decides whether the quantifier may stand there. -/
inductive PieceKind where
  | plain
  | anchor
  | repeated
  deriving DecidableEq

structure Piece where
  pattern : Pattern
  kind : PieceKind

def single (o : Options) (item : ClassItem) : Piece :=
  ⟨.one ⟨false, [item], o.casing⟩, .plain⟩

def code (o : Options) (n : Nat) : Piece := single o (.range n n)

/-- What an escape outside a class stands for. -/
inductive Escape where
  | piece (piece : Piece)
  /-- What the group of this number has captured. -/
  | reference (n : Nat)

/-- An escape of digits, of which the first is not zero: the code of a character, if there are three
octal digits, or else the number of a group. -/
def digitEscape? (o : Options) (c : Char) (rest : Text) : Option (Escape × Text) :=
  let octal := c :: run 2 isOctal rest
  let digits := run 1 Char.isDigit rest
  if isOctal c && octal.length = 3 then
    if octalValue octal > 0o377 then none
    else some (.piece (code o (octalValue octal)), rest.drop 2)
  else some (.reference (decimalValue (c :: digits)), rest.drop digits.length)

/-- An escape outside a class. -/
def escape? (named : Text → Option Char) (o : Options) (c : Char) (rest : Text) :
    Option (Escape × Text) :=
  match category? c with
  | some (k, negated) => some (.piece (single o (.category k negated o.ascii)), rest)
  | none =>
    if c = 'A' then some (.piece ⟨.anchor .textStart, .anchor⟩, rest)
    else if c = 'Z' then some (.piece ⟨.anchor .textEnd, .anchor⟩, rest)
    else if c = 'b' then some (.piece ⟨.anchor (.wordEdge o.ascii), .anchor⟩, rest)
    else if c = 'B' then some (.piece ⟨.anchor (.noWordEdge o.ascii), .anchor⟩, rest)
    else if c = '0' then
      let more := run 2 isOctal rest
      some (.piece (code o (octalValue more)), rest.drop more.length)
    else if c.isDigit then digitEscape? o c rest
    else (codeEscape? named c rest).map fun (n, rest) => (.piece (code o n), rest)

/-! ### Classes -/

/-- One item of a class, before a hyphen is looked for. -/
def classItem? (named : Text → Option Char) (ascii : Bool) : Text → Option (ClassItem × Text)
  | [] => none
  | c :: rest =>
    if c = '\\' then
      match rest with
      | [] => none
      | x :: rest => classEscape? named ascii x rest
    else some (.range c.toNat c.toNat, rest)

/-- The range from one item to another. -/
def range? : ClassItem → ClassItem → Option ClassItem
  | .range a _, .range b _ => if b < a then none else some (.range a b)
  | _, _ => none

/-- The items of a class up to the closing bracket, which stands for itself when it comes first.
`limit` bounds the number of items. -/
def classItems? (named : Text → Option Char) (ascii : Bool) :
    (limit : Nat) → List ClassItem → Text → Option (List ClassItem × Text)
  | 0, _, _ => none
  | limit + 1, items, t =>
    match t, items with
    | ']' :: rest, _ :: _ => some (items.reverse, rest)
    | _, _ => do
      let (item, rest) ← classItem? named ascii t
      match rest with
      | '-' :: ']' :: rest =>
        return ((.range '-'.toNat '-'.toNat :: item :: items).reverse, rest)
      | '-' :: rest =>
        let (item', rest) ← classItem? named ascii rest
        let item ← range? item item'
        classItems? named ascii limit (item :: items) rest
      | _ => classItems? named ascii limit (item :: items) rest

/-- The class after its opening bracket. -/
def charClass? (named : Text → Option Char) (o : Options) (t : Text) : Option (Piece × Text) :=
  let (negated, t) := match t with
    | '^' :: rest => (true, rest)
    | _ => (false, t)
  (classItems? named o.ascii (t.length + 1) [] t).map fun (items, rest) =>
    (⟨.one ⟨negated, items, o.casing⟩, .plain⟩, rest)

/-- A character that stands for itself or is a dot or an anchor. -/
def literal (o : Options) (c : Char) : Piece :=
  if c = '.' then ⟨.one ⟨true, if o.dotAll then [] else [.range 10 10], .exact⟩, .plain⟩
  else if c = '^' then ⟨.anchor (if o.multiline then .lineStart else .textStart), .anchor⟩
  else if c = '$' then ⟨.anchor (if o.multiline then .lineEnd else .lastLineEnd), .anchor⟩
  else code o c.toNat

end ReplSend.Pattern
