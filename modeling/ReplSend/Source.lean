import ReplSend.Line

/-!
# The line table of a source

A line *continues* the one above when it starts inside an open bracket, inside a string that
spans lines, or after a backslash at the end of a line. `Scan` is what is open at the start of a
line, `Scan.next` reads one line, and `Outline.ofText` tabulates every line of a text with its
kind, its indentation and whether it continues the line above.
-/

namespace ReplSend

/-- How a string literal closes: with one quote character or with three. -/
structure Quote where
  mark : Char
  triple : Bool
  deriving DecidableEq, Repr

def Quote.closing (q : Quote) : Text := List.replicate (if q.triple then 3 else 1) q.mark

/-- What is open between two lines: brackets, a string, a joining backslash. -/
structure Scan where
  depth : Nat
  quote : Option Quote
  joined : Bool
  deriving DecidableEq, Repr

namespace Scan

/-- Nothing is open. -/
def clean : Scan := ⟨0, none, false⟩

def isOpen (s : Scan) : Bool := s.depth > 0 || s.quote.isSome || s.joined

def isOpeningBracket (c : Char) : Bool := c == '(' || c == '[' || c == '{'
def isClosingBracket (c : Char) : Bool := c == ')' || c == ']' || c == '}'
def isQuote (c : Char) : Bool := c == '\'' || c == '"'

/-- Reads the rest of a line with `n` more characters to skip (the tail of a quote or an escaped
character). A comment ends the reading; a backslash joins lines only as the last character. -/
def read (s : Scan) : (skip : Nat) → Text → Scan
  | _, [] => s
  | n + 1, _ :: cs => read s n cs
  | 0, c :: cs =>
    match s.quote with
    | some q =>
      if c = '\\' then read s 1 cs
      else if q.closing.isPrefixOf (c :: cs) then
        read { s with quote := none } (q.closing.length - 1) cs
      else read s 0 cs
    | none =>
      if c = '#' then s
      else if isQuote c then
        let triple := (List.replicate 3 c).isPrefixOf (c :: cs)
        read { s with quote := some ⟨c, triple⟩ } (if triple then 2 else 0) cs
      else if isOpeningBracket c then read { s with depth := s.depth + 1 } 0 cs
      else if isClosingBracket c then read { s with depth := s.depth - 1 } 0 cs
      else if c = '\\' && cs.isEmpty then { s with joined := true }
      else read s 0 cs

/-- A string with one quote ends with its line, unless the line ends in a backslash. -/
def closeLine (s : Scan) (line : Text) : Scan :=
  match s.quote with
  | some ⟨_, false⟩ => if line.getLast? = some '\\' then s else { s with quote := none }
  | _ => s

/-- The line without the carriage returns at its end. -/
def visible (line : Text) : Text := Text.dropEndWhile (· == '\r') line

/-- What is open after one more line. -/
def next (s : Scan) (line : Text) : Scan :=
  (read { s with joined := false } 0 (visible line)).closeLine (visible line)

/-- What is open at the start of each of the lines. -/
def states (s : Scan) : List Text → List Scan
  | [] => []
  | l :: ls => s :: states (s.next l) ls

/-- What is open after all the lines. -/
def after (s : Scan) (ls : List Text) : Scan := ls.foldl next s

end Scan

/-- For each line, whether it continues the one above. -/
def continuations (ls : List Text) : List Bool := (Scan.clean.states ls).map Scan.isOpen

/-- One line of a source with what is known of it. -/
structure Row where
  text : Text
  start : Nat
  kind : LineKind
  indent : Nat
  continues : Bool
  deriving DecidableEq, Repr

namespace Row

/-- The row that stands for a line outside the table. -/
def none : Row := ⟨[], 0, .blank, 0, false⟩

/-- The offset just after the line's last character. -/
def stop (r : Row) : Nat := r.start + r.text.length

/-- A blank line that stands alone, outside any bracket or string. -/
def isBlank (r : Row) : Bool := r.kind = .blank && !r.continues

def isCode (r : Row) : Bool := r.continues || r.kind.isCode

/-- A code line that does not continue the line above. -/
def isStatementStart (r : Row) : Bool := !r.continues && r.kind.isCode

end Row

/-- The rows of the lines from an offset and an open state on. -/
def Row.ofLines (offset : Nat) (s : Scan) : List Text → List Row
  | [] => []
  | l :: ls =>
    ⟨l, offset, .ofLine l, indentation l, s.isOpen⟩ ::
      Row.ofLines (offset + l.length + 1) (s.next l) ls

/-- The line table of a text. -/
structure Outline where
  size : Nat
  rows : Array Row
  deriving Repr

namespace Outline

/-- The table of a text. -/
def ofText (t : Text) : Outline := ⟨t.length, (Row.ofLines 0 .clean t.lines).toArray⟩

def count (o : Outline) : Nat := o.rows.size

def row (o : Outline) (i : Nat) : Row := o.rows[i]?.getD .none

def kind (o : Outline) (i : Nat) : LineKind := (o.row i).kind
def indent (o : Outline) (i : Nat) : Nat := (o.row i).indent
def continues (o : Outline) (i : Nat) : Bool := (o.row i).continues
def isBlank (o : Outline) (i : Nat) : Bool := (o.row i).isBlank
def isCode (o : Outline) (i : Nat) : Bool := (o.row i).isCode
def isStatementStart (o : Outline) (i : Nat) : Bool := (o.row i).isStatementStart

def lineStart (o : Outline) (i : Nat) : Nat := (o.row i).start
def lineStop (o : Outline) (i : Nat) : Nat := (o.row i).stop

/-- The line that holds an offset; a newline belongs to the line it ends. Offsets before the text
are on the first line, offsets behind it on the last. -/
def lineAt (o : Outline) (offset : Int) : Nat :=
  o.rows.toList.countP (fun r => decide ((r.start : Int) ≤ offset)) - 1

/-! ### Neighbouring lines -/

/-- The first line from `i` on with a property. -/
def firstFrom (o : Outline) (p : Row → Bool) (i : Nat) : Option Nat :=
  if h : i < o.count then
    if p o.rows[i] then some i else firstFrom o p (i + 1)
  else none
termination_by o.count - i

/-- The last line up to `i` with a property. -/
def lastUpTo (o : Outline) (p : Row → Bool) : Nat → Option Nat
  | 0 => if p (o.row 0) then some 0 else none
  | i + 1 => if p (o.row (i + 1)) then some (i + 1) else lastUpTo o p i

/-- The last line before `i` with a property. -/
def lastBefore (o : Outline) (p : Row → Bool) : Nat → Option Nat
  | 0 => none
  | i + 1 => lastUpTo o p i

/-- The first code line at or after `i`. -/
def nextCode (o : Outline) (i : Nat) : Option Nat := o.firstFrom Row.isCode i

/-- The last code line at or before `i`. -/
def previousCode (o : Outline) (i : Nat) : Option Nat := o.lastUpTo Row.isCode i

/-- The line on which the statement line around `i` begins: up over continuation lines. -/
def statementStart (o : Outline) : Nat → Nat
  | 0 => 0
  | i + 1 => if o.continues (i + 1) then statementStart o i else i + 1

/-- The line on which the statement line around `i` ends: down over continuation lines. -/
def statementStop (o : Outline) (i : Nat) : Nat :=
  if i + 1 < o.count ∧ o.continues (i + 1) then statementStop o (i + 1) else i
termination_by o.count - i

/-! ### Bounds -/

theorem firstFrom_bounds {o : Outline} {p : Row → Bool} {i j : Nat}
    (h : o.firstFrom p i = some j) : i ≤ j ∧ j < o.count := by
  fun_induction firstFrom o p i with
  | case1 i hi hp => simp at h; omega
  | case2 i hi hp ih => have := ih h; omega
  | case3 => simp at h

theorem lastUpTo_le {o : Outline} {p : Row → Bool} {i j : Nat}
    (h : o.lastUpTo p i = some j) : j ≤ i := by
  fun_induction lastUpTo o p i with
  | case1 => simp at h; omega
  | case2 => simp at h
  | case3 => simp at h; omega
  | case4 i hp ih => have := ih h; omega

theorem lastBefore_lt {o : Outline} {p : Row → Bool} {i j : Nat}
    (h : o.lastBefore p i = some j) : j < i := by
  cases i with
  | zero => simp [lastBefore] at h
  | succ i => have := lastUpTo_le h; omega

theorem statementStart_le (o : Outline) (i : Nat) : o.statementStart i ≤ i := by
  fun_induction statementStart o i <;> omega

theorem le_statementStop (o : Outline) (i : Nat) : i ≤ o.statementStop i := by
  fun_induction statementStop o i <;> omega

end Outline

end ReplSend
