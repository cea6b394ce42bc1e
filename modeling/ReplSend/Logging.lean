import ReplSend.Console.Page
import ReplSend.Failure
import ReplSend.Severity

/-!
# Logging

Where log records go and what they look like there. Logging is configured once for each profile:
asking again for the profile in use changes nothing. A configuration that fails leaves no sink.
-/

namespace ReplSend

/-- The two layouts of log records. -/
inductive LogProfile where
  /-- With the time and the place in the program. -/
  | full
  /-- Only the severity and the message, for a terminal. -/
  | terminal
  deriving DecidableEq, Repr

def LogProfile.ofName? (n : Text) : Option LogProfile :=
  if n = "default" then some .full else if n = "cli" then some .terminal else none

/-- Takes the records from a threshold on. -/
structure LogSink where
  profile : LogProfile
  threshold : Severity
  deriving DecidableEq, Repr

structure Logging where
  /-- The profile that was configured last. -/
  profile : Option LogProfile
  sink : Option LogSink
  deriving DecidableEq, Repr

namespace Logging

/-- Nothing is configured. -/
def off : Logging := ⟨none, none⟩

/-- The variable that gives the threshold unless it is asked for. -/
def levelVariable : Text := "PYRELAY_LOG_LEVEL"

/-- The threshold to use, by name: what is asked for, the environment's, or `INFO`. -/
def levelName (asked : Option Text) (environment : Table Text) : Text :=
  Text.upperAscii <| match asked.filter (!·.isEmpty) with
    | some level => level
    | none => (environment.get? levelVariable).getD Severity.info.name

/-- Sets up a sink. -/
def configure (l : Logging) (profile : Text) (level : Option Text) (environment : Table Text) :
    Except Failure Unit × Logging :=
  let asked := LogProfile.ofName? profile
  if asked.isSome && asked == l.profile then (.ok (), l)
  else
    match asked, Severity.ofName? (levelName level environment) with
    | none, _ => (.error .badKey, { l with sink := none })
    | some _, none => (.error .badValue, { l with sink := none })
    | some p, some s => (.ok (), ⟨some p, some ⟨p, s⟩⟩)

/-! ### What configuring does -/

/-- The profile in use is not configured again. -/
theorem configure_same {l : Logging} {profile : Text} {p : LogProfile}
    (hp : LogProfile.ofName? profile = some p) (hl : l.profile = some p) (level : Option Text)
    (environment : Table Text) : l.configure profile level environment = (.ok (), l) := by
  simp [configure, hp, hl]

end Logging

/-! ### Records -/

/-- Something to be logged, with the time and the place in the program as texts. -/
structure LogRecord where
  severity : Severity
  message : Text
  time : Text
  place : Text
  deriving DecidableEq, Repr

namespace LogRecord

/-- The columns in front of the messages on a terminal. -/
def margin : Nat := 9

/-- The text, filled up with spaces. -/
def padded (n : Nat) (t : Text) : Text := t ++ Text.spaces (n - t.length)

/-- The lines that a record takes, without blanks at their ends. -/
def lines (r : LogRecord) (profile : LogProfile) : List Text :=
  let opening := padded margin r.severity.name
  List.map Console.trimEnd <| match profile with
    | .full =>
      Text.lines (r.time ++ " | " ++ padded 6 r.severity.name ++ " | " ++ r.place ++ " | " ++
        r.message)
    | .terminal =>
      (Console.linesWithin (Console.width - margin) r.message).zipIdx.map fun (line, i) =>
        (if i = 0 then opening else Text.spaces margin) ++ line

end LogRecord

/-- The lines that a record makes: none without a sink that takes it. -/
def Logging.lines (l : Logging) (r : LogRecord) : List Text :=
  match l.sink with
  | some sink => if r.severity.passes sink.threshold then r.lines sink.profile else []
  | none => []

end ReplSend
