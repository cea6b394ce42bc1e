import ReplSend.Text.Ranges

/-!
# Blank characters

White space in the wide sense: the controls from tab to carriage return, the four information
separators, the next-line control and every Unicode space. The zero-width space, the Mongolian
vowel separator and the byte-order mark are not blank.
-/

namespace ReplSend.Text

def blankRanges : Ranges :=
  [(0x9, 0xd), (0x1c, 0x20), (0x85, 0x85), (0xa0, 0xa0), (0x1680, 0x1680), (0x2000, 0x200a),
   (0x2028, 0x2029), (0x202f, 0x202f), (0x205f, 0x205f), (0x3000, 0x3000)]

def isBlank (c : Char) : Bool := blankRanges.contains c.toNat

/-- Every character of the text is blank. -/
def allBlank (t : Text) : Bool := t.all isBlank

/-- The text without blanks at either end. -/
def strip (t : Text) : Text := trimBoth isBlank t

/-- The text without its leading blanks. -/
def dropBlanks (t : Text) : Text := t.dropWhile isBlank

/-- The text without one or more leading blanks; there has to be one. -/
def dropBlanks1? : Text → Option Text
  | [] => none
  | c :: cs => if isBlank c then some (dropBlanks cs) else none

/-- A tab or a space: the blanks that indentation is made of. -/
def isTabOrSpace (c : Char) : Bool := c == ' ' || c == '\t'

/-- The text with each tab replaced by spaces up to the next multiple of `width`. The text starts at
a column; a line end goes back to the first one. -/
def expandTabs (width column : Nat) : Text → Text
  | [] => []
  | c :: cs =>
    if c = '\t' then
      let n := width - column % width
      spaces n ++ expandTabs width (column + n) cs
    else if c = '\n' ∨ c = '\r' then c :: expandTabs width 0 cs
    else c :: expandTabs width (column + 1) cs

/-- Characters that end a line for display: the ten line separators of Unicode text. -/
def isLineSeparator (c : Char) : Bool :=
  Ranges.contains [(0xa, 0xd), (0x1c, 0x1e), (0x85, 0x85), (0x2028, 0x2029)] c.toNat

/-- The lines of a text for display: cut at any line separator, a carriage return and the newline
after it counting as one; a separator at the end opens no further line. -/
def displayLines : Text → List Text
  | [] => []
  | '\r' :: '\n' :: cs => [] :: displayLines cs
  | c :: cs =>
    if isLineSeparator c then [] :: displayLines cs
    else match displayLines cs with
      | [] => [[c]]
      | l :: ls => (c :: l) :: ls

end ReplSend.Text
