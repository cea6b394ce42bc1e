import ReplSend.Message
import ReplSend.Severity
import ReplSend.Text.Encoding

/-!
# Events

What the program does to the outside and what reaches it, in order.
-/

namespace ReplSend

inductive Event where
  /-- A process is started, or the attempt is made. -/
  | spawn (arguments : List Text) (directory ioEncoding : Text)
  | sleep
  /-- Bytes are written to a process, with the contents of the file that they make it load. -/
  | write (process : Nat) (bytes : Bytes) (file : Option Bytes)
  /-- Output of a process reaches its session. -/
  | output (process : Nat) (chunk : Text)
  | kill (process : Nat)
  | log (severity : Severity) (text : Text)
  | notify (m : Message)
  | confirm (question : Text)
  deriving DecidableEq

end ReplSend
