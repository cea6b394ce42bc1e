import ReplSend.Loader

/-!
# Echoes

What a transcript shows of a fragment that was sent: the fragment without what sending added,
moved to the left margin, with its middle left out when it is long, and with continuation prompts
from the second line on.
-/

namespace ReplSend.Echo

/-- The line that stands for the lines left out. -/
def ellipsis : Text := "..."

/-- The first `head` lines, a marker and the last `tail` lines of a longer text. Nothing is left
out when the two counts add up to nothing. -/
def truncate (head tail : Int) (t : Text) : Text :=
  let ls := Text.displayLines t
  if head + tail ≤ 0 ∨ (ls.length : Int) ≤ head + tail then t
  else
    Text.unlines <| Text.sliceTo ls head ++ [ellipsis] ++
      if tail > 0 then Text.sliceFrom ls (-tail) else []

/-- The copy of a fragment that is shown; it fails where `dedent` does. -/
def prepare (head tail : Int) (t : Text) : Except Nat Text :=
  (Fragment.dedent (Loader.strip t)).map (truncate head tail)

def continuationPrompt : Text := "... "

/-- The text with a continuation prompt before each line but the first. -/
def withPrompts (t : Text) : Text :=
  match t.lines with
  | [] => []
  | first :: rest => Text.unlines (first :: rest.map (continuationPrompt ++ ·))

end ReplSend.Echo
