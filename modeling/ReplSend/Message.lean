import ReplSend.Text.Blank

/-!
# Summaries

The one message that tells what a send printed: that an exception was raised, that nothing was
printed, or the output without the blanks around it.
-/

namespace ReplSend

inductive MessageKind where
  | exception
  | empty
  | output
  deriving DecidableEq, Repr

def MessageKind.name : MessageKind → Text
  | exception => "exception"
  | empty => "empty"
  | output => "output"

structure Message where
  kind : MessageKind
  text : Text
  deriving DecidableEq, Repr

namespace Message

/-- The line that opens the report of an exception. -/
def tracebackMarker : Text := "Traceback (most recent call last):"

/-- The message for some output. -/
def ofOutput (output : Text) : Message :=
  if Text.hasPart tracebackMarker output then ⟨.exception, "Exception during evaluation."⟩
  else
    let text := Text.strip output
    if text.isEmpty then ⟨.empty, "No output was produced."⟩ else ⟨.output, text⟩

end Message

end ReplSend
