import ReplSend.Locate.Cell
import ReplSend.Prompt

/-!
# Settings

How units are located, sent and echoed. Times are of a type of their own, so that a wait can be
reasoned about with exact fractions.
-/

namespace ReplSend

/-- When the output of a send is captured. -/
inductive EchoOutput where
  | always
  | never
  /-- Only while nobody sees the session's own window. -/
  | whenHidden
  deriving DecidableEq, Repr

structure Settings (τ : Type) where
  interpreter : Text
  interpreterArgs : List Text
  startingDirectory : Text
  dedicated : Bool
  promptRegexp : Text
  encoding : Text
  readyTimeout : τ
  pollInterval : τ
  echoInput : Bool
  echoOutput : EchoOutput
  echoHead : Nat
  echoTail : Nat
  cellBoundary : Text
  cellBeginning : Text
  logLevel : Text

namespace Settings

def default : Settings Float where
  interpreter := "python3"
  interpreterArgs := ["-i", "-q", "-u"]
  startingDirectory := "project-root"
  dedicated := false
  promptRegexp := Prompt.defaultRegexp
  encoding := "utf-8"
  readyTimeout := 3.0
  pollInterval := 0.1
  echoInput := true
  echoOutput := .whenHidden
  echoHead := 10
  echoTail := 10
  cellBoundary := Cell.boundaryRegexp
  cellBeginning := Cell.beginningRegexp
  logLevel := "INFO"

end Settings

end ReplSend
