import ReplSend.Echo
import ReplSend.Manager

/-!
# Requests

One send to a session: the text is echoed into the transcript, a capture is installed for the
output, and the text is transmitted. A simple line is transmitted as it is; any longer text goes
into a file, and the line that loads it is transmitted. A send that fails leaves no capture behind.
-/

namespace ReplSend

structure Request where
  text : Text
  echo : Bool
  addToHistory : Bool
  /-- Keeps top-level main guards when the text is loaded from a file. -/
  keepMain : Bool

/-! ### Transmission -/

/-- The words that open a statement with a block under it. -/
def compoundWords : List Text := ["if", "for", "while", "with", "try", "def", "class", "match"]

/-- The text opens a statement that goes on after its first line. -/
def isCompound (t : Text) : Bool :=
  let t := Text.dropBlanks t
  t.head? = some '@' || compoundWords.any (LineKind.wholeWord · t) ||
    match LineKind.afterWord? "async" t with
    | some rest => compoundWords.any (LineKind.wholeWord · rest)
    | none => false

/-- The text without the newlines at its end. -/
def withoutLineEnds (t : Text) : Text := Text.dropEndWhile (· == '\n') t

/-- The text can be transmitted as it is. -/
def isSimpleLine (t : Text) : Bool := !(withoutLineEnds t).contains '\n' && !isCompound t

namespace World

variable {τ : Type}

/-- A process takes a line and answers it. -/
def wrote (w : World τ) (n : Nat) (bytes : Bytes) (file : Option Bytes) : World τ :=
  match w.sessions[n]? with
  | none => w
  | some s =>
    let script := s.process.script
    let left := { script with replies := script.replies.tail }
    let w := (w.note (.write n bytes file)).modifySession n fun s =>
      { s with process := { s.process with script := left } }
    let w := w.dispatchAll n (script.replies.head?.getD [])
    if script.endsOnWrite then w.modifySession n Session.ended else w

/-- Adds the echo of a text to a transcript, unless nothing would be seen of it. -/
def echoInput (w : World τ) (n : Nat) (t : Text) : Except Failure (World τ) :=
  match Echo.prepare w.settings.echoHead w.settings.echoTail t with
  | .error line => .error (.shallow line)
  | .ok shown =>
    if Text.allBlank shown then .ok w
    else
      match w.sessions[n]? with
      | none => .ok w
      | some s => .ok (w.record s.transcript (Echo.withPrompts shown ++ ['\n']))

/-- Whether input is echoed and output captured. -/
def policies (w : World τ) (n : Nat) : Bool × Bool :=
  (w.settings.echoInput,
    match w.settings.echoOutput with
    | .always => true
    | .never => false
    | .whenHidden => !(w.sessions[n]?).any (·.visible))

/-- Opens a capture for a session. -/
def installCapture (w : World τ) (n : Nat) : Nat × World τ :=
  let capture := w.captures.length
  let w : World τ := { w with captures := w.captures ++ [.empty] }
  (capture, w.modifySession n fun s =>
    { s with capture := some capture, observers := s.observers ++ [capture] })

def isFlushed (w : World τ) (capture : Nat) : Bool := (w.captures[capture]?).any (·.flushed)

/-- Closes a capture that has not been flushed. -/
def abandon (w : World τ) (n capture : Nat) : World τ :=
  if w.isFlushed capture then w else w.release n capture

end World

namespace Act

variable {τ : Type}

/-- Writes a text to a session's process. -/
def write (n : Nat) (data : Text) (file : Option Bytes) : Act τ Unit := do
  let w ← get
  match w.sessions[n]? with
  | none => throw (.dead [])
  | some s =>
    if s.process.script.input = .none then throw (.noInput s.name)
    match w.host.codecs.find? s.encoding with
    | none => throw .unknownEncoding
    | some c =>
      match c.encode? data, s.process.script.input with
      | some bytes, .open => update (·.wrote n bytes file)
      | _, _ => throw (.inputRefused s.name)

/-- Transmits a text, if need be through a file in the given encoding. -/
def transmit (n : Nat) (encoding : Text) (keepMain : Bool) (t : Text) : Act τ Unit := do
  if isSimpleLine t then write n (withoutLineEnds t ++ ['\n']) none
  else
    let w ← get
    match w.host.codecs.find? encoding with
    | none => throw .unknownEncoding
    | some c =>
      match c.written? t with
      | none => throw .unencodable
      | some bytes =>
        write n (Loader.command w.host.temporary encoding keepMain true ++ ['\n']) (some bytes)

/-- Fails if a session's process has ended. -/
def requireLive (n : Nat) : Act τ Unit := do
  let w ← get
  if w.isAlive n then return else throw (.dead (w.nameOf n))

/-- Transmits a text without echo or capture. -/
def plainSend (n : Nat) (t : Text) : Act τ Unit := do
  requireLive n
  let w ← get
  transmit n ((w.sessions[n]?).elim [] (·.encoding)) true t

def echoInput (n : Nat) (t : Text) : Act τ Unit := fun w =>
  match w.echoInput n t with
  | .ok w' => (.ok (), w')
  | .error e => (.error e, w)

/-- Runs a request; gives the number of the capture, if output is captured. -/
def request (n : Nat) (r : Request) : Act τ (Option Nat) := do
  let w ← get
  let (echoed, captured) := w.policies n
  if captured && r.echo && (w.sessions[n]?).any (·.capture.isSome) then throw (.busy (w.nameOf n))
  requireLive n
  if echoed && r.echo then echoInput n r.text
  let capture ← if captured && r.echo then some <$> change (·.installCapture n) else pure none
  tryCatch (transmit n w.settings.encoding r.keepMain r.text) fun e => do
    match capture with
    | some c => update (·.abandon n c)
    | none => pure ()
    throw e
  if r.addToHistory then
    update (·.modifySession n fun s => { s with history := r.text :: s.history })
  return capture

end Act

end ReplSend
