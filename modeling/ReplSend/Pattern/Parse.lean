import ReplSend.Pattern.Class
import ReplSend.Pattern.Width
import ReplSend.Table
import ReplSend.Text.Identifier
import ReplSend.Text.Numeral

/-!
# Reading patterns

The written form of patterns, read turn by turn: `Reading.turn` says what the next part of a group
is, and `readGroup` goes on with what it says, up to the end of the group. `Pattern.parse` gives the
pattern of a text, or why there is none. Options for the whole pattern may stand only at its very
start.
-/

namespace ReplSend.Pattern

/-- Why a text is not the written form of a pattern. -/
inductive Fault where
  | malformed
  /-- A number of too many digits, or both alphabets for the whole pattern. -/
  | badValue
  /-- A number of rounds beyond what is counted. -/
  | excessive
  deriving DecidableEq, Repr

/-- A text in which nothing can be read is malformed. -/
def orMalformed {α : Type} : Option α → Except Fault α
  | some a => .ok a
  | none => .error .malformed

/-! ### Quantifiers -/

/-- Numbers of more digits are not read. -/
def longestNumber : Nat := 4300

/-- The least number of rounds that is not counted. -/
def uncounted : Nat := 4294967295

/-- The number that digits write. -/
def count (digits : Text) : Except Fault Nat :=
  if longestNumber < digits.length then .error .badValue
  else if uncounted ≤ decimalValue digits then .error .excessive
  else .ok (decimalValue digits)

/-- The bounds written after an opening brace, each in digits, and what follows the closing one. -/
def bounds? (t : Text) : Option (Text × Text × Text) :=
  let low := t.takeWhile Char.isDigit
  match t.dropWhile Char.isDigit with
  | ',' :: rest =>
    match rest.dropWhile Char.isDigit with
    | '}' :: after => some (low, rest.takeWhile Char.isDigit, after)
    | _ => none
  | '}' :: after => if low.isEmpty then none else some (low, low, after)
  | _ => none

/-- The least and the greatest number of rounds that bounds say. -/
def counts (low high : Text) : Except Fault (Nat × Option Nat) := do
  let least ← count low
  if high.isEmpty then return (least, none)
  let most ← count high
  if most < least then throw .malformed
  return (least, some most)

/-- The bounds after an opening brace, or nothing if the brace stands for itself. -/
def braces (rest : Text) : Except Fault (Option (Nat × Option Nat × Text)) :=
  match bounds? rest with
  | none => .ok none
  | some (low, high, after) =>
    if after = ['\\'] then .error .malformed
    else (counts low high).map fun (least, most) => some (least, most, after)

/-- The least and the greatest number of rounds that a quantifier asks for, or nothing if no
quantifier stands here. -/
def quantifier (c : Char) (rest : Text) : Except Fault (Option (Nat × Option Nat × Text)) :=
  if c = '?' then .ok (some (0, some 1, rest))
  else if c = '*' then .ok (some (0, none, rest))
  else if c = '+' then .ok (some (1, none, rest))
  else if c = '{' then braces rest
  else .ok none

/-- The way of repeating that is written after a quantifier. -/
def greed : Text → Greed × Text
  | '?' :: rest => (.lazy, rest)
  | '+' :: rest => (.possessive, rest)
  | rest => (.greedy, rest)

/-- Puts a quantifier on the last piece. There has to be one that is not an anchor and has no
quantifier yet. -/
def repeatLast? (least : Nat) (most : Option Nat) (g : Greed) : List Piece → Option (List Piece)
  | ⟨p, .plain⟩ :: pieces => some (⟨.many p least most g, .repeated⟩ :: pieces)
  | _ => none

/-! ### Openings of groups -/

/-- How a group opens, after its parenthesis. -/
inductive Opening where
  | group (name : Option Text)
  | within (on off : Text)
  | look (wanted : Bool)
  | behind (wanted : Bool)
  | atomic
  /-- The group is called by a name or a number. -/
  | condition (called : Text)
  | reference (name : Text)
  | everywhere (on : Text)
  | comment

/-- The end of options that are taken back for one group. -/
def optionsOff? (on off : Text) : Text → Option (Opening × Text)
  | [] => none
  | c :: rest =>
    if c ≠ ':' || off.isEmpty || off.any Options.isAlphabet || off.any on.contains then none
    else if on.contains 't' || off.contains 't' then none
    else some (.within on off, rest)

/-- The end of options that are given: for the whole pattern, or for one group. -/
def optionsOn? (on : Text) : Text → Option (Opening × Text)
  | [] => none
  | c :: rest =>
    if c = '-' then
      optionsOff? on (rest.takeWhile Options.isLetter) (rest.dropWhile Options.isLetter)
    else if on.isEmpty then none
    else if c = ')' then some (.everywhere on, rest)
    else if c = ':' then if on.contains 't' then none else some (.within on [], rest)
    else none

/-- The options after a question mark. -/
def options? (t : Text) : Option (Opening × Text) :=
  let on := t.takeWhile Options.isLetter
  if on.contains 'a' && on.contains 'u' then none
  else optionsOn? on (t.dropWhile Options.isLetter)

/-- The name of a group, up to the closing mark. -/
def groupName? (mark : Char) (t : Text) : Option (Text × Text) :=
  (until? mark t).bind fun (name, rest) =>
    if Text.isIdentifier name then some (name, rest) else none

/-- A group with a name, or what the group of a name has captured. -/
def nameOpening? : Text → Option (Opening × Text)
  | [] => none
  | c :: rest =>
    if c = '<' then (groupName? '>' rest).map fun (name, rest) => (.group (some name), rest)
    else if c = '=' then (groupName? ')' rest).map fun (name, rest) => (.reference name, rest)
    else none

def behindOpening? : Text → Option (Opening × Text)
  | [] => none
  | c :: rest =>
    if c = '=' then some (.behind true, rest)
    else if c = '!' then some (.behind false, rest)
    else none

/-- The mark of a group that is not captured, looks ahead or keeps its match. -/
def mark? : Char → Option Opening
  | ':' => some (.within [] [])
  | '=' => some (.look true)
  | '!' => some (.look false)
  | '>' => some .atomic
  | _ => none

/-- How a group opens with a question mark and another character. -/
def extension? (c : Char) (rest : Text) : Option (Opening × Text) :=
  match mark? c with
  | some opening => some (opening, rest)
  | none =>
    if c = 'P' then nameOpening? rest
    else if c = '<' then behindOpening? rest
    else if c = '(' then (until? ')' rest).map fun (called, rest) => (.condition called, rest)
    else if c = '#' then (until? ')' rest).map fun (_, rest) => (.comment, rest)
    else options? (c :: rest)

def opening? : Text → Option (Opening × Text)
  | [] => some (.group none, [])
  | c :: rest =>
    if c = '?' then
      match rest with
      | [] => none
      | x :: rest => extension? x rest
    else some (.group none, c :: rest)

/-! ### What has been read -/

/-- What has been seen so far, of the whole pattern. -/
structure Seen where
  /-- The numbers of the groups with names. -/
  names : Table Nat
  /-- The widths of the groups by number, as far as they are closed. The whole is group 0. -/
  widths : List (Option Width)
  /-- The numbers by which conditions call groups. -/
  asked : List Nat
  /-- The letters of options for the whole pattern. -/
  letters : Text
  /-- Something cannot be matched, so there is no pattern if all can be read. -/
  flawed : Bool
  deriving DecidableEq, Repr

namespace Seen

def start : Seen := ⟨[], [none], [], [], false⟩

/-- The number that has to be greater than those of all groups. -/
def most : Nat := 1073741823

def isClosed (s : Seen) (n : Nat) : Bool := (s.widths[n]?).any Option.isSome

/-- The width of a group that is closed. -/
def width (s : Seen) (n : Nat) : Width := ((s.widths[n]?).join).getD .zero

/-- A group can be referred to. Within a look behind it has to be from before the look. -/
def refers (s : Seen) (behind : Option Nat) (n : Nat) : Bool :=
  s.isClosed n && behind.all (n < ·)

/-- Opens a group, which has no name or a new one. -/
def open? (s : Seen) (name : Option Text) : Option (Nat × Seen) :=
  let n := s.widths.length
  if n ≥ most then none
  else match name with
    | none => some (n, { s with widths := s.widths ++ [none] })
    | some name =>
      if (s.names.get? name).isSome then none
      else some (n, { s with names := s.names.put name n, widths := s.widths ++ [none] })

/-- The group that a condition calls by its name or number. A number may be that of a group still to
come. -/
def called? (s : Seen) (called : Text) : Option (Nat × Seen) :=
  if Text.isIdentifier called then (s.names.get? called).map (·, s)
  else if longestNumber < called.countP Text.isDecimal then none
  else match Text.typedInt? called with
    | some (.ofNat n) =>
      if n = 0 ∨ n ≥ most then none else some (n, { s with asked := n :: s.asked })
    | _ => none

/-- The fault that is left when all has been read. -/
def fault? (s : Seen) (rest : Text) : Option Fault :=
  if s.letters.contains 'a' && s.letters.contains 'u' then some .badValue
  else if !rest.isEmpty || s.asked.any (s.widths.length ≤ ·) || s.flawed then some .malformed
  else none

end Seen

/-- The pieces, last one first, as one pattern. -/
def joinPieces (pieces : List Piece) : Pattern :=
  pieces.foldl (fun p piece => match p with
    | .empty => piece.pattern
    | p => .seq piece.pattern p) .empty

/-- What has been read of a group: finished alternatives and the pieces of the current one, each
last one first. -/
structure Reading where
  options : Options
  top : Bool
  /-- The number of groups when the outermost look behind began, if this is within one. -/
  behind : Option Nat
  /-- The alternatives hang on a group. -/
  condition : Option Nat
  finished : List Pattern
  pieces : List Piece

namespace Reading

def start (options : Options) (top : Bool) : Reading := ⟨options, top, none, none, [], []⟩

/-- A group within another one. -/
def within (r : Reading) (options : Options) : Reading :=
  { start options false with behind := r.behind }

def push (r : Reading) (piece : Piece) : Reading := { r with pieces := piece :: r.pieces }

def pattern (r : Reading) : Pattern :=
  match r.condition, r.finished with
  | none, finished => finished.foldl (fun q p => .either p q) (joinPieces r.pieces)
  | some n, [] => .condition n (joinPieces r.pieces) .empty
  | some n, yes :: _ => .condition n yes (joinPieces r.pieces)

end Reading

/-- What a group within a group is good for. -/
inductive Enclosure where
  | plain
  | capture (n : Nat)
  | look (wanted : Bool)
  | behind (wanted : Bool)
  | atomic

/-- The pattern of a group that is closed, and what has been seen then. -/
def Enclosure.close (p : Pattern) (s : Seen) : Enclosure → Pattern × Seen
  | plain => (p, s)
  | capture n => (.group n p, { s with widths := s.widths.set n (some (p.width s.width)) })
  | look wanted => (.look wanted p, s)
  | behind wanted =>
    let w := p.width s.width
    (.behind wanted w.least p, { s with flawed := s.flawed || !w.isFixed })
  | atomic => (.atomic p, s)

/-! ### Turns -/

/-- What the next part of a group says. -/
inductive Turn where
  | close
  | go (r : Reading) (s : Seen) (rest : Text)
  | enter (e : Enclosure) (r : Reading) (s : Seen) (rest : Text)

namespace Reading

/-- The turn that a bar leads to. A condition has two alternatives at most. -/
def bar? (r : Reading) (s : Seen) (rest : Text) : Option Turn :=
  if r.condition.isSome && !r.finished.isEmpty then none
  else some (.go { r with finished := joinPieces r.pieces :: r.finished, pieces := [] } s rest)

/-- The turn that a reference to a group leads to. -/
def reference? (r : Reading) (s : Seen) (n : Nat) (rest : Text) : Option Turn :=
  if s.refers r.behind n then some (.go (r.push ⟨.same n r.options.casing, .plain⟩) s rest)
  else none

/-- The turn that an escape leads to. -/
def escapeTurn? (r : Reading) (s : Seen) : Escape × Text → Option Turn
  | (.piece piece, rest) => some (.go (r.push piece) s rest)
  | (.reference n, rest) => r.reference? s n rest

/-- The turn that an opening parenthesis leads to. -/
def openingTurn? (r : Reading) (s : Seen) : Opening × Text → Option Turn
  | (.comment, rest) => some (.go r s rest)
  | (.everywhere on, rest) =>
    if r.top && r.finished.isEmpty && r.pieces.isEmpty then
      some (.go { r with options := on.foldl (·.set true) r.options }
        { s with letters := on ++ s.letters } rest)
    else none
  | (.reference name, rest) => (s.names.get? name).bind fun n => r.reference? s n rest
  | (.group name, rest) =>
    (s.open? name).map fun (n, s) => .enter (.capture n) (r.within r.options) s rest
  | (.within on off, rest) =>
    some (.enter .plain
      (r.within (off.foldl (·.set false) (on.foldl (·.set true) r.options))) s rest)
  | (.look wanted, rest) => some (.enter (.look wanted) (r.within r.options) s rest)
  | (.behind wanted, rest) =>
    some (.enter (.behind wanted)
      { r.within r.options with behind := r.behind.or (some s.widths.length) } s rest)
  | (.atomic, rest) => some (.enter .atomic (r.within r.options) s rest)
  | (.condition called, rest) => (s.called? called).bind fun (n, s) =>
    if r.behind.isNone || s.refers r.behind n then
      some (.enter .plain { r.within r.options with condition := some n } s rest)
    else none

/-- The turn that a quantifier leads to. -/
def repeatTurn? (r : Reading) (s : Seen) (least : Nat) (most : Option Nat) (rest : Text) :
    Option Turn :=
  (repeatLast? least most (greed rest).1 r.pieces).map fun pieces =>
    .go { r with pieces } { s with flawed := s.flawed || r.options.template } (greed rest).2

/-- The turn that a character and the text after it lead to. -/
def turn (named : Text → Option Char) (r : Reading) (s : Seen) (c : Char) (rest : Text) :
    Except Fault Turn :=
  if c = ')' then .ok .close
  else if c = '|' then orMalformed (r.bar? s rest)
  else if r.options.spaced && [' ', '\t', '\n', '\r', '\x0b', '\x0c'].contains c then
    .ok (.go r s rest)
  else if r.options.spaced && c == '#' then orMalformed ((skipLine? rest).map (.go r s))
  else if c = '\\' then
    match rest with
    | [] => .error .malformed
    | x :: rest => orMalformed ((escape? named r.options x rest).bind (r.escapeTurn? s))
  else if c = '[' then
    orMalformed ((charClass? named r.options rest).map fun (piece, rest) =>
      .go (r.push piece) s rest)
  else if c = '(' then orMalformed ((opening? rest).bind (r.openingTurn? s))
  else match quantifier c rest with
    | .error f => .error f
    | .ok (some (least, most, rest)) => orMalformed (r.repeatTurn? s least most rest)
    | .ok none => .ok (.go (r.push (literal r.options c)) s rest)

end Reading

/-- The rest of a group, up to its closing parenthesis or the end of the text. `limit` bounds the
number of turns. -/
def readGroup (named : Text → Option Char) :
    (limit : Nat) → Reading → Seen → Text → Except Fault (Pattern × Seen × Text)
  | _, r, s, [] => .ok (r.pattern, s, [])
  | 0, _, _, _ => .error .malformed
  | limit + 1, r, s, c :: t =>
    match r.turn named s c t with
    | .error f => .error f
    | .ok .close => .ok (r.pattern, s, c :: t)
    | .ok (.go r s rest) => readGroup named limit r s rest
    | .ok (.enter e inner s rest) =>
      match readGroup named limit inner s rest with
      | .ok (p, s, ')' :: rest) =>
        readGroup named limit (r.push ⟨(e.close p s).1, .plain⟩) (e.close p s).2 rest
      | .ok _ => .error .malformed
      | .error f => .error f

/-- The pattern that a text is the written form of. -/
def parse (named : Text → Option Char) (t : Text) : Except Fault Pattern :=
  match readGroup named (t.length + 1) (.start .plain true) .start t with
  | .error f => .error f
  | .ok (p, s, rest) =>
    match s.fault? rest with
    | some f => .error f
    | none => .ok p

end ReplSend.Pattern
