import ReplSend.Sending

/-!
# Actions

Everything that can be done, and everything that can happen to a process from outside. A history
is a list of actions; `World.act` runs one.
-/

namespace ReplSend

inductive Action where
  | send (source : Buffer) (selection : Selection) (step : Bool)
  | sendFile (path : Text) (source : Option Buffer) (encoding : Option Text) (keepMain : Bool)
  | request (session : Nat) (r : Request)
  | plainSend (session : Nat) (text : Text)
  | echoInput (session : Nat) (text : Text)
  | policies (session : Nat)
  | output (session : Nat) (chunks : List Text)
  | exit (session : Nat)
  | setInput (session : Nat) (mode : InputMode)
  | setVisible (session : Nat) (visible : Bool)
  | inspect (session : Nat)
  | get (target : Text)
  | getOrCreate (target : Option Text) (source : Option Buffer)
  | ensureRunning (target : Option Text) (source : Option Buffer)
  | state (target : Text)
  | isBusy (target : Text)
  | transcript (target : Text)
  | lastSent (target : Text)
  | sessions
  | targetFor (source : Option Buffer)
  | isDedicated (source : Buffer)
  | toggleDedicated (source : Buffer)
  | setDedicated (source : Buffer) (enabled : Bool)
  | setLocalTarget (source : Buffer) (target : Option Text)
  | workingDirectory (source : Option Buffer)
  | kill (target : Text) (destroy : Bool)
  | killSource (source : Option Buffer) (destroy : Bool)
  | killAll (confirmation : World.Confirmation) (destroy : Bool)
  /-- A session is killed by itself; the table is not told. -/
  | killSession (session : Nat)

/-- What can be seen of a session. -/
structure Inspection where
  name : Text
  pid : Nat
  alive : Bool
  state : SessionState
  ready : Bool
  history : List Text
  tail : Text

inductive Answer where
  | none
  | outcome (o : Outcome) (finished : Bool)
  /-- Whether output is captured, and whether the capture is over. -/
  | captured (finished : Option Bool)
  | policies (echoInput captureOutput : Bool)
  | inspection (i : Inspection)
  | session (n : Option Nat)
  | state (s : SessionState)
  | flag (b : Bool)
  | text (t : Option Text)
  | sent (r : Option SentRecord)
  | names (names : List Text)

namespace World

variable {τ : Type}

/-- Looks at a session; looking for a prompt is remembered. -/
def inspect (w : World τ) (n : Nat) : Option Inspection × World τ :=
  match w.sessions[n]? with
  | none => (none, w)
  | some s =>
    let (state, w) := w.state n
    let (ready, w) := w.isReady n
    (some ⟨s.name, pid n, s.alive, state, ready, s.history.reverse,
      (w.transcriptAt s.transcript).tail Transcript.tailSize⟩, w)

/-- The names of the live sessions, after those that have ended are dropped. -/
def liveNames (w : World τ) : List Text × World τ :=
  let w := w.prune
  (w.table.map fun (_, n) => w.nameOf n, w)

def toggleDedicated (w : World τ) (source : Text) : Bool × World τ :=
  let enabled := !w.isDedicated source
  (enabled, (w.setDedicated source enabled).log .info
    ("session.dedicated source=" ++ source ++ " enabled=" ++
      if enabled then ("True" : Text) else "False"))

end World

namespace Action

variable {τ : Type} [Clock τ]

/-- A capture is over, or there is none. -/
def finished (capture : Option Nat) : Act τ Bool := do
  let w ← MonadState.get
  return capture.all w.isFlushed

def run : Action → Act τ Answer
  | send b selection step => do
    let o ← Act.send b selection step
    return .outcome o (← finished o.capture)
  | sendFile path source encoding keepMain => do
    let o ← Act.sendFile path source encoding keepMain
    return .outcome o (← finished o.capture)
  | request n r => do
    match ← Act.request n r with
    | some c => return .captured (some (← finished (some c)))
    | none => return .captured none
  | plainSend n t => do Act.plainSend n t; return .none
  | echoInput n t => do Act.echoInput n t; return .none
  | policies n => do
    let (i, o) := (← MonadState.get).policies n
    return .policies i o
  | output n chunks => do Act.update (·.dispatchAll n chunks); return .none
  | exit n => do Act.update (·.modifySession n Session.ended); return .none
  | setInput n mode => do
    Act.update (·.modifySession n fun s =>
      { s with process := { s.process with script := { s.process.script with input := mode } } })
    return .none
  | setVisible n visible => do
    Act.update (·.modifySession n fun s => { s with visible := visible })
    return .none
  | inspect n => do
    match ← Act.change (·.inspect n) with
    | some i => return .inspection i
    | none => return .none
  | get target => return .session (← Act.change (·.get target))
  | getOrCreate target source => return .session (some (← Act.getOrCreate target source))
  | ensureRunning target source => return .session (some (← Act.ensureRunning target source))
  | state target => return .state (← Act.change (·.stateOf target))
  | isBusy target => return .flag (← Act.change (·.isBusy target))
  | transcript target => return .text ((← MonadState.get).transcriptOf? target)
  | lastSent target => return .sent ((← MonadState.get).sent.get? target)
  | sessions => return .names (← Act.change (·.liveNames))
  | targetFor source => return .text (some ((← MonadState.get).targetFor source))
  | isDedicated b => return .flag ((← MonadState.get).isDedicated b.name)
  | toggleDedicated b => return .flag (← Act.change (·.toggleDedicated b.name))
  | setDedicated b enabled => do Act.update (·.setDedicated b.name enabled); return .none
  | setLocalTarget b target => do Act.update (·.setLocalTarget b.name target); return .none
  | workingDirectory source => do
    return .text (some (← Act.ofExcept ((← MonadState.get).workingDirectory source)))
  | kill target destroy => return .flag (← Act.change (·.killTarget target destroy))
  | killSource source destroy =>
    return .flag (← Act.change fun w => w.killTarget (w.targetFor source) destroy)
  | killAll confirmation destroy => return .names (← Act.change (·.killAll confirmation destroy))
  | killSession n => do Act.update (·.killSession n); return .none

end Action

namespace World

variable {τ : Type} [Clock τ]

/-- Runs an action. -/
def act (w : World τ) (a : Action) : Except Failure Answer × World τ := a.run w

/-- The state after a history of actions. -/
def after (w : World τ) (history : List Action) : World τ :=
  history.foldl (fun w a => (w.act a).2) w

end World

end ReplSend
