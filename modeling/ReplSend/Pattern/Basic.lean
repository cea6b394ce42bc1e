import ReplSend.Text.Blank
import ReplSend.Text.Case
import ReplSend.Text.Digit
import ReplSend.Text.Word

/-!
# Patterns

Regular expressions as trees, and where they match. `Pattern.ends p c` lists the places at which
a match of `p` that begins at `c` can end, the preferred one first, each with what the groups have
captured on the way. A repetition goes on as long as its rounds move forward; its last round may
stay where it is. `Pattern.matchesStart` and `Pattern.search` ask whether and where a match begins.
-/

namespace ReplSend

/-- A class of characters with a letter of its own. -/
inductive Category where
  | digit
  | blank
  | word
  deriving DecidableEq, Repr

/-- The character is in the category, or in the ASCII part of it. -/
def Category.contains (ascii : Bool) : Category → Char → Bool
  | digit, c => if ascii then c.isDigit else Text.isDecimal c
  | blank, c => Text.isBlank c && (!ascii || (c.isWhitespace || c == '\x0b' || c == '\x0c'))
  | word, c => if ascii then Text.isAsciiWord c else Text.isWord c

/-- Which letters count as the same in both cases. -/
inductive Casing where
  | exact
  | ascii
  | unicode
  deriving DecidableEq, Repr

/-- The other code points that count as the same. -/
def Casing.others : Casing → Char → List Nat
  | exact, _ => []
  | ascii, c => [c.toLower.toNat, c.toUpper.toNat]
  | unicode, c => Text.caseClass (Text.fold c.toNat)

/-- Two characters are the same where a text is repeated. -/
def Casing.same : Casing → Char → Char → Bool
  | exact, c, d => c == d
  | ascii, c, d => c.toLower == d.toLower
  | unicode, c, d => Text.lower c.toNat == Text.lower d.toNat

inductive ClassItem where
  | range (first last : Nat)
  | category (category : Category) (negated ascii : Bool)
  deriving DecidableEq, Repr

/-- A set of characters, possibly without regard to letter case. -/
structure CharClass where
  negated : Bool
  items : List ClassItem
  casing : Casing
  deriving DecidableEq, Repr

namespace ClassItem

def contains (casing : Casing) (c : Char) : ClassItem → Bool
  | range first last =>
    (Nat.ble first c.toNat && Nat.ble c.toNat last) ||
      (casing.others c).any fun n => Nat.ble first n && Nat.ble n last
  | category k negated ascii => k.contains ascii c != negated

end ClassItem

def CharClass.contains (s : CharClass) (c : Char) : Bool :=
  s.items.any (ClassItem.contains s.casing c) != s.negated

/-- A condition on a place in a text. -/
inductive Anchor where
  | textStart
  | lineStart
  | textEnd
  /-- The end of the text or the newline that ends it. -/
  | lastLineEnd
  | lineEnd
  | wordEdge (ascii : Bool)
  /-- Both sides are alike; never so in an empty text. -/
  | noWordEdge (ascii : Bool)
  deriving DecidableEq, Repr

inductive Greed where
  | greedy
  | lazy
  /-- Takes the preferred match and never another. -/
  | possessive
  deriving DecidableEq, Repr

inductive Pattern where
  | empty
  | one (chars : CharClass)
  | anchor (a : Anchor)
  | seq (p q : Pattern)
  | either (p q : Pattern)
  | many (p : Pattern) (least : Nat) (most : Option Nat) (greed : Greed)
  /-- Captures what is matched. -/
  | group (n : Nat) (p : Pattern)
  /-- What a group has captured, once more. -/
  | same (n : Nat) (casing : Casing)
  /-- One pattern if a group has captured something, or else another. -/
  | condition (n : Nat) (p q : Pattern)
  /-- Looks ahead without moving. -/
  | look (wanted : Bool) (p : Pattern)
  /-- Looks at the characters just passed, a fixed number of them. -/
  | behind (wanted : Bool) (width : Nat) (p : Pattern)
  | atomic (p : Pattern)
  deriving DecidableEq, Repr

/-- A place in a text: the characters before it, the nearest first, what follows, and what has been
captured on the way to it. -/
structure Cursor where
  before : Text
  rest : Text
  captured : List (Nat × Text)
  deriving DecidableEq, Repr

namespace Cursor

def start (t : Text) : Cursor := ⟨[], t, []⟩

/-- The place that many characters back, if there are so many. -/
def back? (c : Cursor) (n : Nat) : Option Cursor :=
  if c.before.length < n then none
  else some ⟨c.before.drop n, (c.before.take n).reverse ++ c.rest, c.captured⟩

/-- The place behind a text that follows. -/
def pass? (casing : Casing) : Text → Cursor → Option Cursor
  | [], c => some c
  | x :: t, ⟨before, y :: rest, captured⟩ =>
    if casing.same x y then pass? casing t ⟨y :: before, rest, captured⟩ else none
  | _, _ => none

/-- The place with what a group has captured since the start of it. -/
def capture (start : Cursor) (n : Nat) (c : Cursor) : Cursor :=
  { c with captured := (n, start.rest.take (start.rest.length - c.rest.length)) ::
      c.captured.filter (·.1 != n) }

/-- A place again after a look around, with what the look has captured. -/
def looked (c : Cursor) (wanted : Bool) : List Cursor → List Cursor
  | [] => if wanted then [] else [c]
  | d :: _ => if wanted then [{ c with captured := d.captured }] else []

end Cursor

namespace Anchor

def wordAt (ascii : Bool) : Option Char → Bool
  | some c => Category.word.contains ascii c
  | none => false

def holds (a : Anchor) (c : Cursor) : Bool :=
  match a with
  | textStart => c.before.isEmpty
  | lineStart => c.before.isEmpty || c.before.head? == some '\n'
  | textEnd => c.rest.isEmpty
  | lastLineEnd => c.rest.isEmpty || c.rest == ['\n']
  | lineEnd => c.rest.isEmpty || c.rest.head? == some '\n'
  | wordEdge ascii => wordAt ascii c.before.head? != wordAt ascii c.rest.head?
  | noWordEdge ascii =>
    !(c.before.isEmpty && c.rest.isEmpty) &&
      wordAt ascii c.before.head? == wordAt ascii c.rest.head?

end Anchor

namespace Pattern

/-- The list without later copies of a place; places in one text differ in what follows. -/
def distinct (cs : List Cursor) : List Cursor :=
  cs.foldr (fun c ds => c :: ds.filter fun d =>
    d.rest.length != c.rest.length || d.captured != c.captured) []

/-- The ends of exactly `n` rounds. -/
def rounds (ends : Cursor → List Cursor) : Nat → Cursor → List Cursor
  | 0, c => [c]
  | n + 1, c => (ends c).flatMap (rounds ends n)

/-- The ends of up to `n` rounds. A round that does not move forward is the last. -/
def further (ends : Cursor → List Cursor) (greedy : Bool) : Nat → Cursor → List Cursor
  | 0, c => [c]
  | n + 1, c =>
    let next (d : Cursor) : List Cursor :=
      if d.rest.length < c.rest.length then further ends greedy n d else [d]
    let onward := match ends c with
      | [d] => next d
      | ds => distinct (ds.flatMap next)
    if greedy then onward ++ [c] else c :: onward

/-- The ends of a repetition. One that is possessive keeps the preferred match of every round. -/
def repeated (ends : Cursor → List Cursor) (least : Nat) (most : Option Nat) (greed : Greed)
    (c : Cursor) : List Cursor :=
  let ends := if greed = .possessive then fun c => (ends c).take 1 else ends
  let all := (rounds ends least c).flatMap fun d =>
    -- every round but the last moves forward
    let limit := match most with
      | some m => min (m - least) (d.rest.length + 1)
      | none => d.rest.length + 1
    further ends (greed != .lazy) limit d
  if greed = .possessive then all.take 1 else all

/-- Where the matches that begin at a place end, the preferred one first. -/
def ends : Pattern → Cursor → List Cursor
  | empty, c => [c]
  | one chars, c =>
    match c.rest with
    | x :: xs => if chars.contains x then [⟨x :: c.before, xs, c.captured⟩] else []
    | [] => []
  | anchor a, c => if a.holds c then [c] else []
  | seq p q, c => (p.ends c).flatMap q.ends
  | either p q, c => p.ends c ++ q.ends c
  | many p least most greed, c => repeated p.ends least most greed c
  | group n p, c => (p.ends c).map (c.capture n)
  | same n casing, c => ((c.captured.lookup n).bind (Cursor.pass? casing · c)).toList
  | condition n p q, c => if (c.captured.lookup n).isSome then p.ends c else q.ends c
  | look wanted p, c => c.looked wanted (p.ends c)
  | behind wanted width p, c => c.looked wanted ((c.back? width).elim [] p.ends)
  | atomic p, c => (p.ends c).take 1

def matchesAt (p : Pattern) (c : Cursor) : Bool := !(p.ends c).isEmpty

/-- A match begins at the start of the text. -/
def matchesStart (p : Pattern) (t : Text) : Bool := p.matchesAt (.start t)

/-- The first offset at or after the place, which is at `offset`, where a match begins. -/
def searchFrom (p : Pattern) (offset : Nat) (before : Text) : Text → Option Nat
  | [] => if p.matchesAt ⟨before, [], []⟩ then some offset else none
  | x :: xs =>
    if p.matchesAt ⟨before, x :: xs, []⟩ then some offset
    else searchFrom p (offset + 1) (x :: before) xs

/-- The first offset where a match begins. -/
def search (p : Pattern) (t : Text) : Option Nat := p.searchFrom 0 [] t

end Pattern

end ReplSend
