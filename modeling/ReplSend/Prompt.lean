import ReplSend.Pattern.Parse

/-!
# Prompts

Output is complete when it ends in the interpreter's prompt, perhaps followed by spaces and tabs.
The line end before the prompt, if any, belongs to the prompt; the prompt need not start a line.
-/

namespace ReplSend.Prompt

/-- The prompts `>>> ` and `In [n]: `. -/
def defaultRegexp : Text := ">>> |In \\[[0-9]+\\]: "

/-- A prompt pattern as it is searched for in output. -/
def embedded (regexp : Text) : Text := "\\r?\\n?(?:" ++ regexp ++ ")[ \\t]*\\Z"

/-- The pattern that finds such a prompt at the end of output. -/
def pattern (named : Text → Option Char) (regexp : Text) : Except Pattern.Fault Pattern :=
  Pattern.parse named (embedded regexp)

end ReplSend.Prompt
