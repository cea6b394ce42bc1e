import ReplSend.Block

/-!
# Buffers

A source text with a cursor. The name is what a private session is called after; the path is the
file that the text came from, if any; the encoding is the file's.
-/

namespace ReplSend

structure Buffer where
  text : Text
  point : Int
  name : Text
  path : Option Text
  encoding : Text
  deriving DecidableEq, Repr

namespace Buffer

def outline (b : Buffer) : Outline := .ofText b.text

/-- The cursor moved to an offset, held within the text. -/
def moveTo (b : Buffer) (point : Int) : Buffer :=
  { b with point := max 0 (min point b.text.length) }

/-- The cursor moved to the start of a line, counted from one and held within the text. -/
def atLine (b : Buffer) (line : Int) : Buffer :=
  let index := max 0 (min (line - 1) ((b.outline.count : Int) - 1))
  b.moveTo (b.outline.lineStart index.toNat)

/-- The line with the cursor, counted from one. -/
def currentLine (b : Buffer) : Nat := b.outline.lineAt b.point + 1

def substring (b : Buffer) (start stop : Int) : Text := Text.slice b.text start stop

end Buffer

end ReplSend
