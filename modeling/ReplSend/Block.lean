import ReplSend.Source

/-!
# Blocks

A block is a run of whole lines that was located as one unit. Its offsets are half-open and leave
out the newline of the last line; its line numbers count from one and include both ends. Only an
empty cell has no line, and then its last line is the one before its first.
-/

namespace ReplSend

/-- The units of source that can be located and sent. -/
inductive BlockKind where
  | statement
  | topStatement
  | defun
  | defclass
  | group
  | cell
  | region
  | buffer
  deriving DecidableEq, Repr

namespace BlockKind

def name : BlockKind → Text
  | statement => "statement"
  | topStatement => "top-statement"
  | defun => "defun"
  | defclass => "defclass"
  | group => "group"
  | cell => "cell"
  | region => "region"
  | buffer => "buffer"

def all : List BlockKind :=
  [statement, topStatement, defun, defclass, group, cell, region, buffer]

def ofName? (n : Text) : Option BlockKind := all.find? (·.name = n)

end BlockKind

structure Block where
  kind : BlockKind
  start : Nat
  stop : Nat
  firstLine : Nat
  lastLine : Nat
  deriving DecidableEq, Repr

namespace Block

def isEmpty (b : Block) : Bool := b.start == b.stop

/-- The block's part of a text. -/
def textIn (b : Block) (t : Text) : Text := Text.slice t b.start b.stop

end Block

/-- The block of the lines `first` to `last`. -/
def Outline.block (o : Outline) (kind : BlockKind) (first last : Nat) : Block :=
  ⟨kind, o.lineStart first, o.lineStop last, first + 1, last + 1⟩

/-- The offset of the first code line after a block, or the end of the text. -/
def Outline.nextStatementStart (o : Outline) (b : Block) : Nat :=
  match o.nextCode b.lastLine with
  | some i => o.lineStart i
  | none => o.size

end ReplSend
