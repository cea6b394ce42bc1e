import ReplSend.Table
import ReplSend.Text.Blank
import ReplSend.Text.Case

/-!
# Files of assignments

Lines of the form `NAME=value`, perhaps after `export`. A value is quoted or runs to the end of
the line or to a comment, and can refer to variables. A name without a value counts as absent. A
line that is none of this is passed over.
-/

namespace ReplSend.Dotenv

def isLineEnd (c : Char) : Bool := c == '\n' || c == '\r'

/-- A blank within a line. -/
def isGap (c : Char) : Bool := Text.isBlank c && !isLineEnd c

/-- The text up to the closing quote and what follows. A quote after a backslash closes only when
no other one does. -/
def quoted? (quote : Char) : Text → Option (Text × Text)
  | [] => none
  | '\\' :: c :: rest =>
    if c = quote then
      match quoted? quote rest with
      | some (t, after) => some ('\\' :: c :: t, after)
      | none => some (['\\'], rest)
    else (quoted? quote (c :: rest)).map fun (t, after) => ('\\' :: t, after)
  | c :: rest =>
    if c = quote then some ([], rest)
    else (quoted? quote rest).map fun (t, after) => (c :: t, after)

/-- Replaces escapes; `escape` gives the character for a letter. -/
def unescape (escape : Char → Option Char) : Text → Text
  | [] => []
  | '\\' :: c :: rest =>
    match escape c with
    | some x => x :: unescape escape rest
    | none => '\\' :: unescape escape (c :: rest)
  | c :: rest => c :: unescape escape rest

def singleEscape : Char → Option Char
  | '\\' => some '\\'
  | '\'' => some '\''
  | _ => none

def doubleEscape : Char → Option Char
  | '\\' => some '\\'
  | '\'' => some '\''
  | '"' => some '"'
  | 'a' => some '\x07'
  | 'b' => some '\x08'
  | 'f' => some '\x0c'
  | 'n' => some '\n'
  | 'r' => some '\r'
  | 't' => some '\t'
  | 'v' => some '\x0b'
  | _ => none

/-- The text before blanks and a comment. -/
def beforeComment (t : Text) : Text :=
  go [] t
where
  /-- `gap` holds the blanks just passed, the latest first. -/
  go (gap : Text) : Text → Text
    | [] => gap.reverse
    | c :: rest =>
      if Text.isBlank c then go (c :: gap) rest
      else if c = '#' ∧ !gap.isEmpty then []
      else gap.reverse ++ c :: go [] rest

/-- The value after the equals sign, and the text after it. -/
def value? (t : Text) : Option (Text × Text) :=
  match t with
  | '\'' :: rest => (quoted? '\'' rest).map fun (v, rest) => (unescape singleEscape v, rest)
  | '"' :: rest => (quoted? '"' rest).map fun (v, rest) => (unescape doubleEscape v, rest)
  | t =>
    let line := t.takeWhile (!isLineEnd ·)
    some (Text.dropEndWhile Text.isBlank (beforeComment line), t.dropWhile (!isLineEnd ·))

/-- The name at the start of an assignment; nothing before a comment. -/
def name? (t : Text) : Option (Option Text × Text) :=
  match t with
  | '#' :: _ => some (none, t)
  | '\'' :: rest =>
    match rest.takeWhile (· != '\''), rest.dropWhile (· != '\'') with
    | c :: cs, _ :: rest => some (some (c :: cs), rest)
    | _, _ => none
  | t =>
    let isName (c : Char) : Bool := c != '=' && c != '#' && !Text.isBlank c
    match t.takeWhile isName with
    | [] => none
    | n => some (some n, t.dropWhile isName)

def dropExport (t : Text) : Text :=
  match Text.dropOpening? "export" t with
  | some (c :: rest) => if isGap c then rest.dropWhile isGap else t
  | _ => t

/-- The text after a comment, if any, and the end of the line, which has to follow. -/
def endOfLine? (t : Text) : Option Text :=
  let t := match t.dropWhile isGap with
    | '#' :: rest => rest.dropWhile (!isLineEnd ·)
    | _ => t
  match t.dropWhile isGap with
  | [] => some []
  | c :: rest => if isLineEnd c then some rest else none

/-- One assignment at the start of a text, or `none` if it is malformed. The last part is where
reading goes on. -/
def assignment (t : Text) : Option (Text × Option Text) × Text :=
  match name? (dropExport t) with
  | none => (none, (dropExport t).dropWhile (!isLineEnd ·))
  | some (name, rest) =>
    match rest.dropWhile isGap with
    | '=' :: after =>
      let after := after.dropWhile isGap
      match value? after with
      | none => (none, after.dropWhile (!isLineEnd ·))
      | some (v, rest) =>
        match endOfLine? rest with
        | some rest => (name.map (·, some v), rest)
        | none => (none, rest.dropWhile (!isLineEnd ·))
    | rest =>
      match endOfLine? rest with
      | some rest => (name.map (·, none), rest)
      | none => (none, rest.dropWhile (!isLineEnd ·))

/-- The assignments as they are written; `limit` bounds the number of lines. -/
def written : (limit : Nat) → Text → List (Text × Option Text)
  | 0, _ => []
  | limit + 1, t =>
    match Text.dropBlanks t with
    | [] => []
    | t =>
      match assignment t with
      | (some a, rest) => a :: written limit rest
      | (none, rest) => written limit rest

/-! ### References to variables -/

/-- A reference after a dollar sign and a brace: the name, the default, and what follows. -/
def reference? (t : Text) : Option (Text × Text × Text) :=
  let name := t.takeWhile fun c => c != '\x7d' && c != ':'
  match t.drop name.length with
  | '\x7d' :: rest => some (name, [], rest)
  | ':' :: '-' :: more =>
    match more.dropWhile (· != '\x7d') with
    | _ :: rest => some (name, more.takeWhile (· != '\x7d'), rest)
    | [] => none
  | _ => none

/-- The value with the values of the variables that it refers to; `limit` bounds the steps. -/
def resolved (lookup : Text → Option Text) : (limit : Nat) → Text → Text
  | 0, t => t
  | _, [] => []
  | limit + 1, c :: cs =>
    let plain := c :: resolved lookup limit cs
    match c, cs with
    | '$', '\x7b' :: more =>
      match reference? more with
      | some (name, fallback, rest) =>
        (lookup name).getD fallback ++ resolved lookup limit rest
      | none => plain
    | _, _ => plain

/-- What the assignments of a text give their names. A value can refer to the assignments above
it and to the environment, where the nearest counts. -/
def assignments (environment : Table Text) (t : Text) : Table (Option Text) :=
  (written (t.length + 1) t).foldl (fun given (name, v) =>
    let lookup (n : Text) : Option Text :=
      match given.get? n with
      | some v => some (v.getD [])
      | none => environment.get? n
    given.put name (v.map fun v => resolved lookup (v.length + 1) v)) []

end ReplSend.Dotenv
