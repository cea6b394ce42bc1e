import ReplSend.Buffer
import ReplSend.World

/-!
# The session manager

Which session the text of a source goes to, and the life of sessions: at most one live session for
each target, started when it is first needed, waited for until it shows a prompt, and dropped from
the table when it has ended.
-/

namespace ReplSend

namespace World

variable {τ : Type}

/-! ### Targets -/

/-- What is known of a source; a source not heard of follows the settings. -/
def sourceRecord (w : World τ) (source : Text) : SourceRecord :=
  (w.sources.get? source).getD ⟨w.settings.dedicated, none⟩

/-- The target that a source name leads to. -/
def targetOf (w : World τ) (source : Text) : Text :=
  let r := w.sourceRecord source
  match r.target with
  | some t => if t.isEmpty then (if r.dedicated then privateTarget source else sharedTarget) else t
  | none => if r.dedicated then privateTarget source else sharedTarget

def targetFor (w : World τ) : Option Buffer → Text
  | none => sharedTarget
  | some b => w.targetOf b.name

def isDedicated (w : World τ) (source : Text) : Bool := (w.sourceRecord source).dedicated

def setDedicated (w : World τ) (source : Text) (enabled : Bool) : World τ :=
  let r : SourceRecord := ⟨enabled, (w.sources.get? source).bind (·.target)⟩
  { w with sources := w.sources.put source r }

/-- Gives a source a target of its own; an empty name takes it back. -/
def setLocalTarget (w : World τ) (source : Text) (target : Option Text) : World τ :=
  let r : SourceRecord := ⟨w.isDedicated source, target.filter (!·.isEmpty)⟩
  { w with sources := w.sources.put source r }

/-! ### Looking up -/

/-- The live session of a target. One that has ended is dropped from the table. -/
def get (w : World τ) (target : Text) : Option Nat × World τ :=
  match w.table.get? target with
  | none => (none, w)
  | some n =>
    if w.isAlive n then (some n, w) else (none, { w with table := w.table.drop target })

/-- Drops the sessions that have ended from the table. -/
def prune (w : World τ) : World τ :=
  w.table.names.foldl (fun w target => (w.get target).2) w

def nameOf (w : World τ) (n : Nat) : Text := (w.sessions[n]?).elim [] (·.name)

/-- The state of a target's session; looking does not drop it. -/
def stateOf (w : World τ) (target : Text) : SessionState × World τ :=
  match w.table.get? target with
  | none => (.notStarted, w)
  | some n => w.state n

def isBusy (w : World τ) (target : Text) : Bool × World τ :=
  match w.get target with
  | (none, w) => (false, w)
  | (some n, w) =>
    let (ready, w) := w.isReady n
    (!ready, w)

def transcriptOf? (w : World τ) (target : Text) : Option Text :=
  (w.records.get? target).map fun t => (w.transcriptAt t).text

/-! ### Where a session starts -/

/-- The directory that a new session is started in. -/
def workingDirectory (w : World τ) (source : Option Buffer) : Except Failure Text :=
  let current := match source.bind (·.path) with
    | some path => w.host.resolve (Path.parent path)
    | none => w.host.current
  let mode := w.settings.startingDirectory
  if mode = "project-root" then .ok ((w.projectRoot.bind id).getD current)
  else if mode = "current-directory" then .ok current
  else
    let path := w.host.expandHome mode
    if w.host.isDirectory path then .ok path else .error (.noDirectory mode)

/-- The executable that the settings name. -/
def interpreter (w : World τ) : Except Failure Text :=
  match w.host.executable? w.settings.interpreter with
  | some path => .ok path
  | none => .error (.noInterpreter w.settings.interpreter)

/-- The encoding that a new process is told to use. -/
def ioEncoding (w : World τ) : Text :=
  (w.host.environment.get? "PYTHONIOENCODING").getD w.settings.encoding

/-- The number of a target's transcript, which is made if there is none. -/
def transcriptFor (w : World τ) (target : Text) : Nat × World τ :=
  match w.records.get? target with
  | some t => (t, w)
  | none =>
    let t := w.transcripts.length
    (t, { w with transcripts := w.transcripts ++ [.empty], records := w.records.put target t })

/-- Puts a session for a started process into the tables. A transcript that is not empty gets a
newline, so that an old prompt at its end is not taken for one of the new process. -/
def addSession (w : World τ) (target : Text) (script : Script) : World τ :=
  let (t, w) := w.transcriptFor target
  let w := if (w.transcriptAt t).tail 1 |>.isEmpty then w else w.record t ['\n']
  { w with
    sessions := w.sessions ++ [.start target script t w.settings.encoding]
    table := w.table.put target w.sessions.length }

end World

/-! ### Starting and waiting -/

namespace Act

variable {τ : Type}

def ofExcept {α : Type} : Except Failure α → Act τ α
  | .ok a => pure a
  | .error e => throw e

/-- Runs a change of the state that gives an answer. -/
def change {α : Type} (f : World τ → α × World τ) : Act τ α := fun w =>
  (.ok (f w).1, (f w).2)

def update (f : World τ → World τ) : Act τ Unit := change fun w => ((), f w)

/-- Starts a process for a target. -/
def spawn (target : Text) (source : Option Buffer) : Act τ Nat := do
  let w ← get
  let directory ← ofExcept (w.workingDirectory source)
  let executable ← ofExcept w.interpreter
  let script := w.scripts.head?.getD .default
  update fun w =>
    { w.note (.spawn (executable :: w.settings.interpreterArgs) directory w.ioEncoding) with
      scripts := w.scripts.tail }
  match script.startFault with
  | some reason => throw (.notStarted executable reason)
  | none =>
    let n := w.sessions.length
    update fun w => (w.addSession target script).log .info
      ("session.start target=" ++ target ++ " pid=" ++ Text.ofNat (World.pid n) ++ " cwd=" ++
        directory)
    return n

/-- The live session of a target, which is started if there is none. -/
def getOrCreate (target : Option Text) (source : Option Buffer) : Act τ Nat := do
  let w ← get
  let target := (target.filter (!·.isEmpty)).getD (w.targetFor source)
  match ← change (·.get target) with
  | some n => return n
  | none => spawn target source

/-- Waits until a session is ready, its process has ended or the deadline is reached. The limit
bounds the number of tests. -/
def awaitReady [Clock τ] (n : Nat) (deadline : τ) : (limit : Nat) → Act τ Unit
  | 0 => pure ()
  | limit + 1 => do
    if ← change (·.isReady n) then return
    let w ← get
    let remaining := Clock.sub deadline w.clock
    if Clock.le remaining Clock.zero || !w.isAlive n then
      update (·.log .warning ("session.ready.timeout target=" ++ w.nameOf n ++ " waited=" ++
        Clock.tenths w.settings.readyTimeout ++ ['s']))
    else
      update (·.sleep (Clock.least w.settings.pollInterval remaining))
      awaitReady n deadline limit

/-- The live session of a target, after a bounded wait for its prompt. -/
def ensureRunning [Clock τ] (target : Option Text) (source : Option Buffer) : Act τ Nat := do
  let n ← getOrCreate target source
  let w ← get
  awaitReady n (Clock.add w.clock w.settings.readyTimeout)
    (Clock.rounds w.settings.readyTimeout w.settings.pollInterval + 1)
  return n

end Act

/-! ### Killing -/

namespace World

variable {τ : Type}

/-- Kills the session of a target and, if asked, forgets its transcript. Tells whether there was
a session. -/
def killTarget (w : World τ) (target : Text) (destroy : Bool) : Bool × World τ :=
  let found := w.table.get? target
  let w := match found with
    | none => w
    | some n =>
      (({ w with table := w.table.drop target }).killSession n).log .info
        ("session.kill target=" ++ target ++ " pid=" ++ Text.ofNat (pid n))
  let w := if destroy then { w with records := w.records.drop target, sent := w.sent.drop target }
    else w
  (found.isSome, w)

/-- How the killing of all sessions is confirmed: not at all, or by the answers to questions, one
for all sessions or one for each. -/
inductive Confirmation where
  | none
  | once (answers : List Bool)
  | each (answers : List Bool)

/-- Kills the sessions of targets, one by one; with `answers`, each after a question. -/
def killEach (destroy : Bool) : Option (List Bool) → List Text → World τ → List Text × World τ
  | _, [], w => ([], w)
  | none, target :: targets, w =>
    let (killed, w) := killEach destroy none targets (w.killTarget target destroy).2
    (target :: killed, w)
  | some answers, target :: targets, w =>
    let w := w.note (.confirm ("Kill Python shell " ++ target ++ (['?'] : Text)))
    if answers.head?.getD false then
      let (killed, w) := killEach destroy (some answers.tail) targets
        (w.killTarget target destroy).2
      (target :: killed, w)
    else killEach destroy (some answers.tail) targets w

/-- Kills all live sessions; tells which. -/
def killAll (w : World τ) (confirmation : Confirmation) (destroy : Bool) : List Text × World τ :=
  let w := w.prune
  let targets := w.table.map fun (_, n) => w.nameOf n
  match confirmation with
  | .none => killEach destroy none targets w
  | .each answers => killEach destroy (some answers) targets w
  | .once answers =>
    if targets.isEmpty then ([], w)
    else
      let w := w.note (.confirm
        ("Kill all " ++ Text.ofNat targets.length ++ (" Python shells?" : Text)))
      if answers.head?.getD false then killEach destroy none targets w else ([], w)

end World

end ReplSend
