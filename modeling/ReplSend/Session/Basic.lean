import ReplSend.Table
import ReplSend.Text.Encoding

/-!
# Sessions

An interpreter process and what is kept about it. What the process will do is given by a script:
what it prints whenever time passes and in answer to each line, and when it ends. A session is known
by the number of its process; transcripts and captures are known by numbers too, since several
sessions can share a transcript and a capture can outlive its registration.
-/

namespace ReplSend

/-- What happens to a line written to a process. -/
inductive InputMode where
  | open
  /-- There is no input stream. -/
  | none
  | broken
  | closed
  deriving DecidableEq, Repr

/-- What a process is going to do. -/
structure Script where
  /-- What it prints at each passing of time. -/
  ticks : List (List Text)
  /-- It ends when time has passed this often. -/
  endsAfter : Option Nat
  /-- What it prints in answer to each line. -/
  replies : List (List Text)
  endsOnWrite : Bool
  input : InputMode
  /-- Why it cannot be started. -/
  startFault : Option Text
  /-- Waiting for its end after a kill takes too long. -/
  waitTimesOut : Bool
  deriving DecidableEq, Repr

/-- A process that shows its prompt at once and is silent ever after. -/
def Script.default : Script := ⟨[[">>> "]], none, [], false, .open, none, false⟩

structure Process where
  script : Script
  ticksSeen : Nat
  ended : Bool
  deriving DecidableEq, Repr

inductive SessionState where
  | notStarted
  | starting
  | ready
  | busy
  | killed
  deriving DecidableEq, Repr

def SessionState.name : SessionState → Text
  | notStarted => "not-started"
  | starting => "starting"
  | ready => "ready"
  | busy => "busy"
  | killed => "killed"

structure Session where
  name : Text
  process : Process
  /-- The number of the transcript that it writes to. -/
  transcript : Nat
  encoding : Text
  /-- Somebody sees the session's own window. -/
  visible : Bool
  /-- The latest entry comes first. -/
  history : List Text
  /-- The capture that is pending. -/
  capture : Option Nat
  /-- The captures that are fed with output. -/
  observers : List Nat
  killed : Bool
  /-- A prompt has been seen. -/
  everReady : Bool
  deriving DecidableEq, Repr

namespace Session

def start (name : Text) (script : Script) (transcript : Nat) (encoding : Text) : Session where
  name := name
  process := ⟨script, 0, false⟩
  transcript := transcript
  encoding := encoding
  visible := false
  history := []
  capture := none
  observers := []
  killed := false
  everReady := false

def alive (s : Session) : Bool := !s.killed && !s.process.ended

/-- The session without a capture among its observers. -/
def release (s : Session) (capture : Nat) : Session :=
  { s with
    observers := s.observers.erase capture
    capture := if s.capture = some capture then none else s.capture }

def ended (s : Session) : Session := { s with process := { s.process with ended := true } }

end Session

/-- The name of the session that sources share. -/
def sharedTarget : Text := "Python"

/-- The name of a source's private session. -/
def privateTarget (source : Text) : Text := sharedTarget ++ '[' :: source ++ [']']

/-- What is known of a source: whether it has a private session, and the target it was given. -/
structure SourceRecord where
  dedicated : Bool
  target : Option Text
  deriving DecidableEq, Repr

/-- The lines last sent to a target. -/
structure SentRecord where
  target : Text
  source : Text
  firstLine : Nat
  lastLine : Nat
  deriving DecidableEq, Repr

end ReplSend
