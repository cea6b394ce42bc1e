import ReplSend.Text.Blank
import ReplSend.Text.Cells

/-!
# Pages

How a text is laid out on a terminal of fixed width: tabs become spaces, words go on the line
before them as long as they fit, and a word wider than a line is broken. No line of a page is
wider than the terminal (`cells_fit_le`).
-/

namespace ReplSend.Console

/-- The columns of the terminal. -/
def width : Nat := 200

/-- Controls that ring a bell or move the cursor back or down; they are never printed. -/
def isUnprinted (c : Char) : Bool := [7, 8, 11, 12, 13].contains c.toNat

/-- A line with each tab replaced by spaces up to the next multiple of eight columns. -/
def expandTabs (column : Nat) : Text → Text
  | [] => []
  | c :: cs =>
    if c = '\t' then
      let n := 8 - column % 8
      Text.spaces n ++ expandTabs (column + n) cs
    else c :: expandTabs (column + Text.cellWidth c) cs

/-! ### Words -/

/-- A line cut before each word. -/
def pieces : Text → List Text
  | [] => []
  | c :: cs =>
    match pieces cs with
    | [] => [[c]]
    | p :: ps =>
      if Text.isBlank c && !p.head?.all Text.isBlank then [c] :: p :: ps else (c :: p) :: ps

/-- The words of a line. Each keeps the blanks after it, the first also those before it. -/
def words (line : Text) : List Text :=
  match pieces line with
  | p :: q :: ps => if Text.allBlank p then (p ++ q) :: ps else p :: q :: ps
  | ps => ps

/-- The text without the blanks at its end. -/
def trimEnd (t : Text) : Text := Text.dropEndWhile Text.isBlank t

/-- A text cut wherever the next character would not fit; the first part starts at a column. -/
def chop (width column : Nat) : Text → List Text
  | [] => [[]]
  | c :: cs =>
    let k := Text.cellWidth c
    if width < column + k then [] :: (chop width k cs).modifyHead (c :: ·)
    else (chop width (column + k) cs).modifyHead (c :: ·)

/-- Words set on lines, after what a line holds already. Blanks after a word may stick out. -/
def setWords (width : Nat) (line : Text) : List Text → List Text
  | [] => [line]
  | w :: ws =>
    if Text.cells line + Text.cells (trimEnd w) ≤ width then setWords width (line ++ w) ws
    else if Text.cells (trimEnd w) ≤ width then line :: setWords width w ws
    else
      let parts := chop width 0 w
      (if line.isEmpty then [] else [line]) ++ parts.dropLast ++
        setWords width (parts.getLast?.getD []) ws

/-! ### Lines -/

/-- The longest start of a text that fits into some columns; half a wide character at the end is
a space. -/
def crop : (width : Nat) → Text → Text
  | _, [] => []
  | width, c :: cs =>
    let k := Text.cellWidth c
    if k ≤ width then c :: crop (width - k) cs else Text.spaces width

/-- A line within the width. Of the blanks at its end, those are dropped first that are more than
the width has columns. -/
def fit (width : Nat) (line : Text) : Text :=
  let blanks := (line.reverse.takeWhile Text.isBlank).length
  crop width (line.take (line.length - min blanks (line.length - width)))

theorem cells_crop_le (width : Nat) (t : Text) : Text.cells (crop width t) ≤ width := by
  induction t generalizing width with
  | nil => simp [crop, Text.cells]
  | cons c cs ih =>
    simp only [crop]
    split
    · have := ih (width - Text.cellWidth c)
      simp only [Text.cells] at this ⊢
      omega
    · exact Nat.le_of_eq (Text.cells_spaces width)

theorem cells_fit_le (width : Nat) (line : Text) : Text.cells (fit width line) ≤ width :=
  cells_crop_le _ _

/-- The lines that a text takes. -/
def linesWithin (width : Nat) (t : Text) : List Text :=
  (Text.lines (t.filter (!isUnprinted ·))).flatMap fun l =>
    (setWords width [] (words (expandTabs 0 l))).map (fit width)

/-- A text as it is printed. -/
def page (t : Text) : Text := (linesWithin width t).flatMap (· ++ ['\n'])

/-! ### Escapes -/

/-- A character between the bracket and the last letter of a sequence that sets a colour. -/
def isParameter (c : Char) : Bool := c.isDigit || c == ';' || c == '?'

/-- What follows the sequence at the start of a text that sets a colour or the like. -/
def afterEscape? : Text → Option Text
  | '\x1b' :: '[' :: cs =>
    match cs.dropWhile isParameter with
    | final :: rest => if final.isAlpha then some rest else none
    | [] => none
  | _ => none

theorem length_lt_of_afterEscape? {t rest : Text} (h : afterEscape? t = some rest) :
    rest.length < t.length := by
  unfold afterEscape? at h
  split at h
  · next cs =>
    have hle := (List.dropWhile_sublist (l := cs) isParameter).length_le
    split at h
    · next hd =>
      rw [hd] at hle
      split at h
      · cases h
        simp only [List.length_cons] at hle ⊢
        omega
      · cases h
    · cases h
  · cases h

/-- A text without such sequences. -/
def withoutEscapes (t : Text) : Text :=
  match t with
  | [] => []
  | c :: cs =>
    match h : afterEscape? (c :: cs) with
    | some rest =>
      have := length_lt_of_afterEscape? h
      withoutEscapes rest
    | none => c :: withoutEscapes cs
termination_by t.length
decreasing_by all_goals (simp only [List.length_cons] at *; omega)

end ReplSend.Console
