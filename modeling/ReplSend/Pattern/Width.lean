import ReplSend.Pattern.Basic

/-!
# Widths of patterns

How many characters a pattern can match, at least and at most. A look at what has been passed needs
a pattern of a fixed width.
-/

namespace ReplSend

/-- The least and the greatest number of characters; `none` is unbounded. -/
structure Width where
  least : Nat
  most : Option Nat
  deriving DecidableEq, Repr

namespace Width

def zero : Width := ⟨0, some 0⟩

def one : Width := ⟨1, some 1⟩

/-- One after the other. -/
def add (a b : Width) : Width := ⟨a.least + b.least, a.most.bind fun m => b.most.map (m + ·)⟩

/-- One or the other. -/
def either (a b : Width) : Width :=
  ⟨min a.least b.least, a.most.bind fun m => b.most.map (max m)⟩

/-- Some number of times. Nothing stays nothing however often, and what is unbounded is nothing if
it is taken no times. -/
def times (w : Width) (least : Nat) (most : Option Nat) : Width :=
  ⟨w.least * least, if w.most = some 0 ∨ most = some 0 then some 0
    else most.bind fun n => w.most.map (· * n)⟩

/-- The greatest width of something that can be looked for behind a place. -/
def furthest : Nat := 4294967295

/-- There is one width, and it is not too great to look back. -/
def isFixed (w : Width) : Bool := w.least ≤ furthest && w.most == some w.least

end Width

/-- The width of a pattern, from those of the groups. -/
def Pattern.width (groups : Nat → Width) : Pattern → Width
  | empty | anchor _ | look .. | behind .. => .zero
  | one _ => .one
  | seq p q => (p.width groups).add (q.width groups)
  | either p q | condition _ p q => (p.width groups).either (q.width groups)
  | many p least most _ => (p.width groups).times least most
  | group _ p | atomic p => p.width groups
  | same n _ => groups n

end ReplSend
