import ReplSend.CommandLine.Command
import ReplSend.Console.Markup
import ReplSend.Logging
import ReplSend.Sending

/-!
# Running commands

A command line is run on a host; the report tells how it ended, what was printed and what happened
to processes. Faults of the program's own are told in words, in red, or in yellow when there is
just nothing to take at the place; any other fault ends the run as it is.
-/

namespace ReplSend

/-- How a run ends. -/
inductive Ending where
  | done
  /-- A fault was told. -/
  | failed
  /-- The arguments cannot be understood. -/
  | misused (fault : UsageFault)
  /-- The settings cannot be used. -/
  | unconfigured
  /-- A fault that is not told. -/
  | broken (fault : Failure)
  deriving DecidableEq

def Ending.exitCode : Ending → Nat
  | done => 0
  | misused _ => 2
  | failed | unconfigured | broken _ => 1

structure Report where
  ending : Ending
  printed : Text
  events : List Event

namespace Report

/-- The name of the program and its version. -/
def versionLine : Text := "pyrelay 0.1.0"

/-- A run without events. -/
def quiet (ending : Ending) (printed : Text) : Report := ⟨ending, printed, []⟩

/-- A text that is printed as it is, on lines of its own. -/
def verbatim (t : Text) : Text := Console.withoutEscapes t ++ ['\n']

/-- A message in a colour. -/
def coloured (colour message : Text) : Text :=
  '[' :: colour ++ ']' :: message ++ "[/" ++ colour ++ [']']

/-- How a failure ends a run, and what is printed of it. -/
def told (f : Failure) : Ending × Text :=
  let tell (colour : Text) (ending : Ending) :=
    match Console.markedPage? (coloured colour f.message) with
    | some page => (ending, page)
    | none => (.broken .badMarkup, [])
  match f.kind with
  | .foreign => (.broken f, [])
  | .noActiveBlock => tell "yellow" .done
  | _ => tell "red" .failed

def ofFailure (f : Failure) : Report := quiet (told f).1 (told f).2

def ofMisuse (fault : UsageFault) : Report := quiet (.misused fault) (verbatim fault.message)

/-! ### What commands need -/

/-- The settings of the current directory. -/
def loaded (host : Host) (overrides : List (Text × Value)) : Except Report (Settings Float) :=
  match Settings.load host.named overrides host.environment (host.read? ".env") with
  | .ok s => .ok s
  | .error (.invalid fields) =>
    .error { ofFailure (.settings (.invalid fields)) with ending := .unconfigured }
  | .error f => .error (ofFailure (.settings f))

/-- The path is that of a file; one that has to be a directory's is not. -/
def isUsable (host : Host) (path : Text) : Bool :=
  (host.read? path).isSome && !path.isEmpty && Path.name path == (Path.split path).getLast?.getD []

/-- The buffer at a place, with its file's name and encoding. -/
def opened (host : Host) (place : Place) (settings : Settings Float) : Except Report Buffer :=
  (Buffer.ofFile host (Path.normal place.file) place.line settings.encoding).mapError ofFailure

/-! ### Locating -/

/-- The unit at a buffer's cursor. -/
def located (host : Host) (settings : Settings Float) (b : Buffer) (unit : BlockKind) :
    Except Failure Block := do
  let o := b.outline
  let i := o.lineAt b.point
  match unit with
  | .statement => (o.statement i).mapError .locate
  | .topStatement => (o.topStatement i).mapError .locate
  | .group => (o.group i).mapError .locate
  | .cell =>
    match Pattern.parse host.named settings.cellBoundary,
        Pattern.parse host.named settings.cellBeginning with
    | .ok boundary, .ok beginning =>
      (o.cell boundary.matchesStart beginning.matchesStart i).mapError .locate
    | .error f, _ | _, .error f => throw (.badPattern f)
  | .buffer => return o.whole
  | .defun => around (o.definition i .defHeader)
  | .defclass => around (o.definition i .classHeader)
  | .region => throw (.locate (.unplaceable "locate" unit))
where
  around : Except LocateFault (Option Block) → Except Failure Block
    | .ok (some b) => .ok b
    | .ok none => .error (.locate (.noneAround unit))
    | .error f => .error (.locate f)

def locate (host : Host) (place : Place) : Except Report Report := do
  let settings ← loaded host []
  let b ← opened host place settings
  let block ← (located host settings b place.unit).mapError ofFailure
  return quiet .done <|
    verbatim (block.kind.name ++ ' ' :: Text.ofNat block.firstLine ++ '-' ::
      Text.ofNat block.lastLine) ++ verbatim (block.textIn b.text)

/-! ### Sending -/

/-- What a terminal shows of events: summaries, and the log records that get through. -/
def shown (logging : Logging) (events : List Event) : Text :=
  events.flatMap fun
    | .notify m => Console.page m.text
    | .log s t => (logging.lines ⟨s, t, [], []⟩).flatMap (· ++ ['\n'])
    | _ => []

/-- Sends the unit at a buffer's cursor; gives what is printed after the summary. -/
def sent (b : Buffer) (unit : BlockKind) (timeout : Float) (keepMain transcript : Bool) :
    Act Float Text := do
  match Selection.ofKind? unit keepMain with
  | none => throw (.locate (.unplaceable "send" unit))
  | some selection =>
    let o ← Act.send b selection false
    let w ← get
    let late := if o.capture.all w.isFlushed then []
      else Console.page ("No prompt within " ++ Decimal.fixed 1 timeout ++ ['s'])
    if !transcript then return late
    match ← Act.change (·.get o.target) with
    | none => return late
    | some n =>
      return late ++ verbatim ((w.sessions[n]?).elim [] fun s => (w.transcriptAt s.transcript).text)

/-- Starts an interpreter, sends a unit to it, and kills it. -/
def send (host : Host) (scripts : List Script) (place : Place) (interpreter : Text)
    (timeout : Float) (keepMain transcript : Bool) : Except Report Report := do
  let (configured, logging) := Logging.off.configure "cli" none host.environment
  configured.mapError ofFailure
  let settings ← loaded host <|
    ("echo_output", .bool true) ::
      if interpreter.isEmpty then [] else [("interpreter", .text interpreter)]
  let b ← opened host place settings
  let w ← (World.initial? settings 0.0 host scripts .event none).mapError ofFailure
  let (result, w) := (sent b place.unit timeout keepMain transcript).run w
  let before := shown logging w.trace.reverse
  let (ending, printed) := match result with
    | .ok printed => (.done, printed)
    | .error f => told f
  let (_, ended) := { w with trace := [] }.killAll .none true
  return ⟨ending, before ++ printed ++ shown logging ended.trace.reverse,
    (ended.trace ++ w.trace).reverse⟩

/-! ### Targets -/

/-- Prints the target that the sends of a file go to. -/
def sessions (host : Host) (file : Text) (dedicated : Bool) : Except Report Report := do
  let settings ← loaded host []
  let w ← (World.initial? settings 0.0 host [] .event none).mapError ofFailure
  let name := Path.name file
  let w := if dedicated then w.setDedicated name true else w
  return quiet .done (verbatim (w.targetOf name))

/-! ### Commands -/

/-- Runs a command. -/
def ofCommand (host : Host) (scripts : List Script) (c : Command) : Report :=
  match c.readFile?.filter (!isUsable host ·) with
  | some path => ofMisuse (.unusableFile path)
  | none =>
    let run : Except Report Report :=
      match c with
      | .version => .ok (quiet .done (verbatim versionLine))
      | .locate place => locate host place
      | .send place interpreter timeout keepMain transcript =>
        send host scripts place interpreter timeout keepMain transcript
      | .sessions file dedicated => sessions host file dedicated
    match run with
    | .ok r => r
    | .error r => r

/-- Runs a command line. -/
def ofArguments (host : Host) (scripts : List Script) (arguments : List Text) : Report :=
  match Command.ofArguments arguments with
  | .ok c => ofCommand host scripts c
  | .error fault => ofMisuse fault

end Report

end ReplSend
