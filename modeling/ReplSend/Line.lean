import ReplSend.Text.Blank
import ReplSend.Text.Word

/-!
# Single lines

What one line of source is, judged by its first word alone, and the column at which it starts.
A line can be of several kinds at once (`@def f`); the order of the tests in `LineKind.ofLine`
decides, decorators first.
-/

namespace ReplSend

inductive LineKind where
  | blank
  | comment
  | decorator
  | defHeader
  | classHeader
  /-- An `else`, `elif`, `except` or `finally` line: it goes on with the statement above it. -/
  | clause
  | code
  deriving DecidableEq, Repr

namespace LineKind

def name : LineKind → Text
  | blank => "blank"
  | comment => "comment"
  | decorator => "decorator"
  | defHeader => "def"
  | classHeader => "class"
  | clause => "else-elif"
  | code => "code"

def all : List LineKind := [blank, comment, decorator, defHeader, classHeader, clause, code]

def ofName? (n : Text) : Option LineKind := all.find? (·.name = n)

/-- Everything but blank and comment lines. -/
def isCode : LineKind → Bool
  | blank | comment => false
  | _ => true

/-- The line opens a definition. -/
def isHeader : LineKind → Bool
  | defHeader | classHeader => true
  | _ => false

/-! ### The tests, on a line without its leading blanks -/

/-- The text after a word and the blanks that have to follow it. -/
def afterWord? (word t : Text) : Option Text := (Text.dropOpening? word t).bind Text.dropBlanks1?

/-- The given keyword, blanks and the first character of a name. -/
def namesAfter (keyword t : Text) : Bool :=
  match afterWord? keyword t with
  | some (c :: _) => Text.isWord c
  | _ => false

def opensDef (t : Text) : Bool :=
  namesAfter "def" t ||
    match afterWord? "async" t with
    | some rest => namesAfter "def" rest
    | none => false

def opensClass (t : Text) : Bool := namesAfter "class" t

/-- The keyword and, after blanks if any, a colon. -/
def colonAfter (keyword t : Text) : Bool :=
  match Text.dropOpening? keyword t with
  | some rest => (Text.dropBlanks rest).head? = some ':'
  | none => false

/-- The keyword as a whole word. -/
def wholeWord (keyword t : Text) : Bool :=
  match Text.dropOpening? keyword t with
  | some (c :: _) => !Text.isWord c
  | some [] => true
  | none => false

def isClause (t : Text) : Bool :=
  colonAfter "else" t || wholeWord "elif" t || wholeWord "except" t || colonAfter "finally" t

/-- The kind of a line. -/
def ofLine (line : Text) : LineKind :=
  let t := Text.dropBlanks line
  if t.head? = some '@' then decorator
  else if opensDef t then defHeader
  else if opensClass t then classHeader
  else if isClause t then clause
  else if t.isEmpty then blank
  else if t.head? = some '#' then comment
  else code

end LineKind

/-- Columns from one tab stop to the next. -/
def tabWidth : Nat := 8

/-- The column after a blank at `column`: a tab moves to the next tab stop. -/
def columnAfter (column : Nat) (c : Char) : Nat :=
  if c = '\t' then (column / tabWidth + 1) * tabWidth else column + 1

/-- The column of the first character that is neither a space nor a tab. -/
def indentation (line : Text) : Nat :=
  (line.takeWhile Text.isTabOrSpace).foldl columnAfter 0

theorem le_foldl_columnAfter (b : Text) (column : Nat) : column ≤ b.foldl columnAfter column := by
  induction b generalizing column with
  | nil => exact Nat.le_refl column
  | cons c b ih =>
    have hc : column ≤ columnAfter column c := by
      unfold columnAfter tabWidth
      split <;> omega
    exact Nat.le_trans hc (ih _)

/-- Tabs and spaces take up as many columns as they have when they are expanded. -/
theorem expandTabs_blanks {b : Text} (hb : ∀ c ∈ b, Text.isTabOrSpace c = true) (column : Nat) :
    Text.expandTabs tabWidth column b = Text.spaces (b.foldl columnAfter column - column) := by
  induction b generalizing column with
  | nil => simp [Text.expandTabs, Text.spaces]
  | cons c b ih =>
    obtain ⟨hc, hrest⟩ := List.forall_mem_cons.1 hb
    simp only [Text.isTabOrSpace, Bool.or_eq_true, beq_iff_eq] at hc
    have hle := le_foldl_columnAfter b (columnAfter column c)
    rcases hc with rfl | rfl
    · rw [show columnAfter column ' ' = column + 1 from rfl] at hle
      rw [Text.expandTabs, if_neg (by decide), if_neg (by decide), ih hrest, List.foldl_cons,
        show columnAfter column ' ' = column + 1 from rfl,
        show b.foldl columnAfter (column + 1) - column =
          b.foldl columnAfter (column + 1) - (column + 1) + 1 by omega]
      rfl
    · have hnext : columnAfter column '\t' = column + (tabWidth - column % tabWidth) := by
        have hmod := Nat.mod_add_div column 8
        have hlt := Nat.mod_lt column (show 0 < 8 by decide)
        rw [columnAfter, if_pos rfl]
        simp only [tabWidth]
        omega
      rw [hnext] at hle
      rw [Text.expandTabs, if_pos rfl]
      dsimp only
      rw [ih hrest, List.foldl_cons, hnext, Text.spaces, Text.spaces, Text.spaces,
        List.replicate_append_replicate]
      congr 1
      omega

end ReplSend
