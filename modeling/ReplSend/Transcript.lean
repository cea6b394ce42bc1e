import ReplSend.Text.Basic

/-!
# Transcripts

The record of a target: the output of its interpreters and the echoes of what was sent, kept in
the parts in which it arrived.
-/

namespace ReplSend

structure Transcript where
  /-- The parts, the latest first. -/
  latest : List Text
  deriving DecidableEq, Repr

namespace Transcript

def empty : Transcript := ⟨[]⟩

def append (t : Transcript) (chunk : Text) : Transcript := ⟨chunk :: t.latest⟩

def text (t : Transcript) : Text := t.latest.reverse.flatten

/-- The ends of the latest parts that together hold `size` characters, the latest first. The walk
stops with the part that fills the count. -/
def ends : (size : Int) → List Text → List Text
  | _, [] => []
  | size, part :: parts =>
    Text.sliceFrom part (-size) ::
      if size - part.length ≤ 0 then [] else ends (size - part.length) parts

/-- The last `size` characters. -/
def tail (t : Transcript) (size : Int) : Text := (ends size t.latest).reverse.flatten

/-- How much of a transcript is looked at for a prompt. -/
def tailSize : Int := 256

end Transcript

end ReplSend
