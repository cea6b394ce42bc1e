import ReplSend.Capture
import ReplSend.Event
import ReplSend.Failure
import ReplSend.Session.Basic
import ReplSend.Transcript

/-!
# The state of everything

All sessions ever started with their processes, the tables of the session manager, the clock and
the events so far. The clock's times are of any type with the few operations of `Clock`.
-/

namespace ReplSend

/-- What waiting needs to know of times. -/
class Clock (τ : Type) where
  zero : τ
  add : τ → τ → τ
  sub : τ → τ → τ
  le : τ → τ → Bool
  /-- The time in text, with one decimal place. -/
  tenths : τ → Text
  /-- A number of intervals that is never exceeded while the time passes. -/
  rounds (time interval : τ) : Nat

instance : Clock Float where
  zero := 0.0
  add := (· + ·)
  sub := (· - ·)
  le x y := x ≤ y
  tenths := Decimal.fixed 1
  rounds time interval := 2 * (time / interval).ceil.toUInt64.toNat + 2

/-- The lesser of two times. -/
def Clock.least {τ : Type} [Clock τ] (a b : τ) : τ := if le a b then a else b

/-- How a message is passed on. -/
inductive Notice where
  | event
  | log
  deriving DecidableEq, Repr

structure World (τ : Type) where
  settings : Settings τ
  /-- The pattern that finds a prompt at the end of output. -/
  prompt : Pattern
  cellBoundary : Pattern
  cellBeginning : Pattern
  notice : Notice
  host : Host
  /-- Answers where the project of a source is; without it sources have no project. -/
  projectRoot : Option (Option Text)
  clock : τ
  /-- What the next processes to be started will do. -/
  scripts : List Script
  /-- Every session, by the number of its process. -/
  sessions : List Session
  /-- The current session of each target. -/
  table : Table Nat
  /-- Every transcript, by number. -/
  transcripts : List Transcript
  /-- The current transcript of each target. -/
  records : Table Nat
  sources : Table SourceRecord
  sent : Table SentRecord
  /-- Every capture, by number. -/
  captures : List Capture
  /-- The events so far, the latest first. -/
  trace : List Event

/-- Operations that can fail half way. -/
abbrev Act (τ : Type) := ExceptT Failure (StateM (World τ))

namespace World

variable {τ : Type}

/-- The state at the beginning. The settings have to hold patterns that can be read. -/
def initial? (settings : Settings τ) (start : τ) (host : Host) (scripts : List Script)
    (notice : Notice) (projectRoot : Option (Option Text)) : Except Failure (World τ) :=
  match Prompt.pattern host.named settings.promptRegexp,
      Pattern.parse host.named settings.cellBoundary,
      Pattern.parse host.named settings.cellBeginning with
  | .ok prompt, .ok cellBoundary, .ok cellBeginning =>
    .ok {
      settings, prompt, cellBoundary, cellBeginning, notice, host, projectRoot, clock := start,
      scripts, sessions := [], table := [], transcripts := [], records := [], sources := [],
      sent := [], captures := [], trace := [] }
  | .error f, _, _ | _, .error f, _ | _, _, .error f => .error (.badPattern f)

/-- Adds an event. -/
def note (w : World τ) (e : Event) : World τ := { w with trace := e :: w.trace }

def log (w : World τ) (s : Severity) (text : Text) : World τ := w.note (.log s text)

def modifySession (w : World τ) (n : Nat) (f : Session → Session) : World τ :=
  { w with sessions := w.sessions.modify n f }

@[simp] theorem modifySession_id (w : World τ) (n : Nat) : w.modifySession n id = w := by
  rw [modifySession, List.modify_id]

/-- Adds a part to a transcript. -/
def record (w : World τ) (transcript : Nat) (chunk : Text) : World τ :=
  { w with transcripts := w.transcripts.modify transcript (·.append chunk) }

def transcriptAt (w : World τ) (transcript : Nat) : Transcript :=
  w.transcripts[transcript]?.getD .empty

/-- The number that the system gives a process. -/
def pid (n : Nat) : Nat := 1001 + n

/-- Where a prompt starts that ends the output. -/
def boundary (w : World τ) : Text → Option Nat := w.prompt.search

/-! ### Messages -/

def notify (w : World τ) (m : Message) : World τ :=
  match w.notice with
  | .event => w.note (.notify m)
  | .log => w.log .info ("echo.output kind=" ++ m.kind.name ++ " text=" ++ m.text)

/-! ### Output -/

/-- Ends the registration of a capture. -/
def release (w : World τ) (n capture : Nat) : World τ :=
  w.modifySession n (·.release capture)

def signal (n capture : Nat) (w : World τ) : Signal → World τ
  | .flush => w.release n capture
  | .summary m => w.notify m

/-- Feeds a capture of a session with a chunk of output. -/
def feed (w : World τ) (n capture : Nat) (chunk : Text) : World τ :=
  match w.captures[capture]? with
  | none => w
  | some c =>
    let (c, signals) := c.feed w.boundary chunk
    signals.foldl (signal n capture) { w with captures := w.captures.set capture c }

/-- A chunk of output reaches a session. A killed session ignores it. -/
def dispatch (w : World τ) (n : Nat) (chunk : Text) : World τ :=
  match w.sessions[n]? with
  | none => w
  | some s =>
    if s.killed then w
    else s.observers.foldl (fun w capture => w.feed n capture chunk)
      ((w.record s.transcript chunk).note (.output n chunk))

def dispatchAll (w : World τ) (n : Nat) (chunks : List Text) : World τ :=
  chunks.foldl (fun w chunk => w.dispatch n chunk) w

/-! ### Time -/

/-- A process lives through one passing of time. -/
def tick (w : World τ) (n : Nat) : World τ :=
  match w.sessions[n]? with
  | none => w
  | some s =>
    if s.process.ended then w
    else
      let script := s.process.script
      let seen := s.process.ticksSeen + 1
      let w := w.modifySession n fun s => { s with
        process := ⟨{ script with ticks := script.ticks.tail }, seen, false⟩ }
      let w := w.dispatchAll n (script.ticks.head?.getD [])
      if script.endsAfter.any (· ≤ seen) then w.modifySession n Session.ended else w

/-- Time passes, for every process. -/
def sleep [Clock τ] (w : World τ) (time : τ) : World τ :=
  let w := { w.note .sleep with clock := Clock.add w.clock time }
  (List.range w.sessions.length).foldl tick w

/-! ### Readiness -/

/-- The transcript of a session ends in a prompt. -/
def promptShows (w : World τ) (n : Nat) : Bool :=
  match w.sessions[n]? with
  | none => false
  | some s => (w.boundary ((w.transcriptAt s.transcript).tail Transcript.tailSize)).isSome

/-- Looks whether a session is ready. A prompt once seen is remembered. -/
def isReady (w : World τ) (n : Nat) : Bool × World τ :=
  if w.promptShows n then (true, w.modifySession n fun s => { s with everReady := true })
  else (false, w)

theorem isReady_fst (w : World τ) (n : Nat) : (w.isReady n).1 = w.promptShows n := by
  unfold isReady
  cases w.promptShows n <;> rfl

/-- Looking changes nothing but what is remembered of the session. -/
theorem isReady_snd (w : World τ) (n : Nat) : (w.isReady n).2 =
    w.modifySession n fun s => { s with everReady := s.everReady || w.promptShows n } := by
  unfold isReady
  cases w.promptShows n with
  | true => simp only [if_true, Bool.or_true]
  | false =>
    have hsame : (fun s : Session => { s with everReady := s.everReady || false }) = id := by
      funext s
      rw [Bool.or_false]
      rfl
    rw [hsame, modifySession_id]
    rfl

def isAlive (w : World τ) (n : Nat) : Bool := (w.sessions[n]?).any Session.alive

/-- The state of a session. -/
def state (w : World τ) (n : Nat) : SessionState × World τ :=
  if !w.isAlive n then (.killed, w)
  else
    let (ready, w) := w.isReady n
    if ready then (.ready, w)
    else (if (w.sessions[n]?).any (·.everReady) then .busy else .starting, w)

/-! ### Killing -/

/-- Kills a session: pending captures are dropped, and the process is ended if it has not ended
by itself. -/
def killSession (w : World τ) (n : Nat) : World τ :=
  match w.sessions[n]? with
  | none => w
  | some s =>
    let w := w.modifySession n fun s => { s with killed := true, observers := [], capture := none }
    let w := if s.process.ended then w else (w.note (.kill n)).modifySession n Session.ended
    if s.process.script.waitTimesOut then
      w.log .warning ("session.kill.timeout target=" ++ s.name ++ " pid=" ++ Text.ofNat (pid n))
    else w

end World

end ReplSend
