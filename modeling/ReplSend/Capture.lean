import ReplSend.Message

/-!
# Captures

A capture collects the output of one send until a boundary shows up in it; then it is flushed,
once, and what came before the boundary is summed up. How a boundary is recognised is a parameter:
a function that gives the offset at which the boundary starts.
-/

namespace ReplSend

structure Capture where
  text : Text
  /-- The capture is over, and who waits for it is let go: the chunk that ends it does both. -/
  flushed : Bool
  deriving DecidableEq, Repr

/-- What a capture tells the outside, in order: that it is over, and the summary. -/
inductive Signal where
  | flush
  | summary (m : Message)
  deriving DecidableEq, Repr

namespace Capture

/-- Nothing has arrived yet. -/
def empty : Capture := ⟨[], false⟩

/-- One more chunk of output. -/
def feed (boundary : Text → Option Nat) (c : Capture) (chunk : Text) : Capture × List Signal :=
  if c.flushed then (c, [])
  else
    let output := c.text ++ chunk
    match boundary output with
    | none => (⟨output, false⟩, [])
    | some offset => (⟨[], true⟩, [.flush, .summary (.ofOutput (output.take offset))])

end Capture

end ReplSend
