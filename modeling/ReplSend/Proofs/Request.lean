import ReplSend.Proofs.Act

/-!
# What a request does

Whether a text can be transmitted, and what is then written, depends on the state alone
(`transmission`). A request is refused, or it opens (`opened`: the echo, then the capture),
transmits its text, and is then remembered or withdrawn (`request_apply`).
-/

namespace ReplSend

/-- The bytes that a session's process takes for a text, or why it takes none. -/
def Session.taken (s : Session) (codecs : Codecs) (data : Text) : Except Failure Bytes :=
  if s.process.script.input = .none then .error (.noInput s.name)
  else
    match codecs.find? s.encoding with
    | none => .error .unknownEncoding
    | some c =>
      match c.encode? data, s.process.script.input with
      | some bytes, .open => .ok bytes
      | _, _ => .error (.inputRefused s.name)

namespace World

variable {τ : Type}

def offered (w : World τ) (n : Nat) (data : Text) : Except Failure Bytes :=
  match w.sessions[n]? with
  | none => .error (.dead [])
  | some s => s.taken w.host.codecs data

/-- The bytes that transmitting a text writes, with the contents of the file that they load, or
why it cannot be transmitted. -/
def transmission (w : World τ) (n : Nat) (encoding : Text) (keepMain : Bool) (t : Text) :
    Except Failure (Bytes × Option Bytes) :=
  if isSimpleLine t then (w.offered n (withoutLineEnds t ++ ['\n'])).map (·, none)
  else
    match w.host.codecs.find? encoding with
    | none => .error .unknownEncoding
    | some c =>
      match c.written? t with
      | none => .error .unencodable
      | some file =>
        (w.offered n (Loader.command w.host.temporary encoding keepMain true ++ ['\n'])).map
          (·, some file)

/-- The output of the session would be captured. -/
def capturing (w : World τ) (n : Nat) (r : Request) : Bool := (w.policies n).2 && r.echo

/-- The session is still captured for the request before. -/
def blocked (w : World τ) (n : Nat) (r : Request) : Bool :=
  w.capturing n r && (w.sessions[n]?).any (·.capture.isSome)

/-- The state with the capture of a request, if it has one. -/
def readied (w : World τ) (n : Nat) (r : Request) : Option Nat × World τ :=
  if w.capturing n r then (some (w.installCapture n).1, (w.installCapture n).2) else (none, w)

/-- The state in which a request is transmitted, with its capture, or why it is refused. -/
def opened (w : World τ) (n : Nat) (r : Request) : Except Failure (Option Nat × World τ) :=
  if w.blocked n r then .error (.busy (w.nameOf n))
  else if !w.isAlive n then .error (.dead (w.nameOf n))
  else if w.settings.echoInput && r.echo then (w.echoInput n r.text).map (·.readied n r)
  else .ok (w.readied n r)

/-- What a process takes does not depend on how its session is captured. -/
theorem offered_modifySession {w : World τ} {n m : Nat} {data : Text} {f : Session → Session}
    (hf : ∀ s, (f s).taken w.host.codecs data = s.taken w.host.codecs data) :
    (w.modifySession m f).offered n data = w.offered n data := by
  simp only [offered, modifySession, List.getElem?_modify]
  cases w.sessions[n]? with
  | none => rfl
  | some s => by_cases hm : m = n <;> simp [hm, hf]

theorem transmission_readied {w : World τ} {n : Nat} {r : Request} {encoding t : Text}
    {keepMain : Bool} : (w.readied n r).2.transmission n encoding keepMain t =
      w.transmission n encoding keepMain t := by
  have hoffered : ∀ data, (w.readied n r).2.offered n data = w.offered n data := by
    intro data
    unfold readied
    split
    · exact offered_modifySession fun s => rfl
    · rfl
  have hhost : (w.readied n r).2.host = w.host := by
    unfold readied
    split <;> rfl
  simp only [transmission, hoffered, hhost]

/-- An echo changes no more than the transcripts. -/
theorem transcripts_of_echoInput {w w' : World τ} {n : Nat} {t : Text}
    (h : w.echoInput n t = .ok w') : ∃ ts, w' = { w with transcripts := ts } := by
  unfold echoInput at h
  split at h
  · cases h
  split at h
  · cases h
    exact ⟨w.transcripts, rfl⟩
  split at h
  · cases h
    exact ⟨w.transcripts, rfl⟩
  · cases h
    exact ⟨_, rfl⟩

section Opened

variable {w : World τ} {n : Nat} {r : Request}

theorem opened_of_blocked (h : w.blocked n r = true) :
    w.opened n r = .error (.busy (w.nameOf n)) := if_pos h

theorem opened_of_dead (h : w.blocked n r = false) (hl : w.isAlive n = false) :
    w.opened n r = .error (.dead (w.nameOf n)) := by
  simp [opened, h, hl]

theorem opened_echoed (h : w.blocked n r = false) (hl : w.isAlive n = true)
    (he : (w.settings.echoInput && r.echo) = true) :
    w.opened n r = (w.echoInput n r.text).map (·.readied n r) := by
  simp only [opened, h, hl, he, Bool.not_true, Bool.false_eq_true, if_false, if_true]

theorem opened_unechoed (h : w.blocked n r = false) (hl : w.isAlive n = true)
    (he : (w.settings.echoInput && r.echo) = false) : w.opened n r = .ok (w.readied n r) := by
  simp only [opened, h, hl, he, Bool.not_true, Bool.false_eq_true, if_false]

/-- What opens a request is at most an echo and a capture. -/
theorem opened_eq_ok {p : Option Nat × World τ} (h : w.opened n r = .ok p) :
    ∃ ts, p = ({ w with transcripts := ts } : World τ).readied n r := by
  unfold opened at h
  split at h
  · cases h
  split at h
  · cases h
  split at h
  · cases he : w.echoInput n r.text with
    | error e =>
      rw [he] at h
      cases h
    | ok w' =>
      obtain ⟨ts, rfl⟩ := transcripts_of_echoInput he
      rw [he] at h
      cases h
      exact ⟨ts, rfl⟩
  · cases h
    exact ⟨w.transcripts, rfl⟩

end Opened

/-- The request enters the history of its session, if it is to be remembered. -/
def remembered (w : World τ) (n : Nat) (r : Request) : World τ :=
  if r.addToHistory then w.modifySession n fun s => { s with history := r.text :: s.history }
  else w

/-- The capture of a request that failed is closed. -/
def withdrawn (w : World τ) (n : Nat) : Option Nat → World τ
  | some c => w.abandon n c
  | none => w

end World

namespace Act

variable {τ : Type} {w : World τ} {n : Nat} {encoding : Text} {keepMain : Bool} {t : Text}

theorem write_apply (data : Text) (file : Option Bytes) :
    write n data file w = match w.offered n data with
      | .ok bytes => (.ok (), w.wrote n bytes file)
      | .error e => (.error e, w) := by
  simp only [write, World.offered, bind_apply, get_apply]
  cases w.sessions[n]? with
  | none => rfl
  | some s =>
    unfold Session.taken
    by_cases hin : s.process.script.input = .none
    · simp [hin, bind_apply]
    · simp only [hin, if_false]
      cases w.host.codecs.find? s.encoding with
      | none => rfl
      | some c =>
        simp only
        cases c.encode? data <;> cases s.process.script.input <;> rfl

theorem transmit_apply :
    transmit n encoding keepMain t w = match w.transmission n encoding keepMain t with
      | .ok (bytes, file) => (.ok (), w.wrote n bytes file)
      | .error e => (.error e, w) := by
  unfold transmit World.transmission
  split
  · rw [write_apply]
    cases w.offered n _ <;> rfl
  · simp only [bind_apply, get_apply]
    cases w.host.codecs.find? encoding with
    | none => rfl
    | some c =>
      simp only
      cases c.written? t with
      | none => rfl
      | some file =>
        simp only [write_apply]
        cases w.offered n _ <;> rfl

/-- The second half of a request. -/
def deliver (n : Nat) (encoding : Text) (r : Request) (capture : Option Nat) :
    Act τ (Option Nat) := do
  tryCatch (transmit n encoding r.keepMain r.text) fun e => do
    match capture with
    | some c => update (·.abandon n c)
    | none => pure ()
    throw e
  if r.addToHistory then
    update (·.modifySession n fun s => { s with history := r.text :: s.history })
  return capture

theorem deliver_apply (r : Request) (capture : Option Nat) :
    deliver n encoding r capture w = match w.transmission n encoding r.keepMain r.text with
      | .ok (bytes, file) => (.ok capture, (w.wrote n bytes file).remembered n r)
      | .error e => (.error e, w.withdrawn n capture) := by
  unfold deliver
  rw [bind_apply, tryCatch_apply, transmit_apply]
  rcases w.transmission n encoding r.keepMain r.text with e | ⟨bytes, file⟩
  · cases capture <;> rfl
  · simp only [World.remembered]
    cases r.addToHistory <;> rfl

theorem echoInput_apply :
    echoInput n t w = match w.echoInput n t with
      | .ok w' => (.ok (), w')
      | .error e => (.error e, w) := rfl

/-- A request, in one equation. -/
theorem request_apply (r : Request) :
    request n r w = match w.opened n r with
      | .error e => (.error e, w)
      | .ok (c, w') =>
        match w'.transmission n w.settings.encoding r.keepMain r.text with
        | .ok (bytes, file) => (.ok c, (w'.wrote n bytes file).remembered n r)
        | .error e => (.error e, w'.withdrawn n c) := by
  have hrest : ∀ w' : World τ, w'.capturing n r = w.capturing n r →
      (if w.capturing n r then
        some <$> change (·.installCapture n) >>= deliver n w.settings.encoding r
      else pure none >>= deliver n w.settings.encoding r : Act τ (Option Nat)) w' =
      deliver n w.settings.encoding r (w'.readied n r).1 (w'.readied n r).2 := by
    intro w' hcap
    rw [World.readied, hcap]
    split
    · rw [bind_apply, map_apply]
      rfl
    · rfl
  unfold request
  simp only [bind_apply, get_apply]
  by_cases hbusy : ((w.policies n).2 && r.echo && (w.sessions[n]?).any (·.capture.isSome)) = true
  · rw [World.opened_of_blocked hbusy, if_pos hbusy]
    rfl
  have hfree : w.blocked n r = false := Bool.eq_false_iff.2 hbusy
  rw [if_neg hbusy, bind_apply, requireLive]
  simp only [bind_apply, get_apply]
  cases hlive : w.isAlive n with
  | false =>
    rw [World.opened_of_dead hfree hlive]
    rfl
  | true =>
    simp only [pure_apply, if_true]
    cases hecho : (w.policies n).1 && r.echo with
    | true =>
      rw [World.opened_echoed hfree hlive hecho, if_pos rfl, bind_apply, echoInput_apply]
      cases he : w.echoInput n r.text with
      | error e => rfl
      | ok w' =>
        simp only [Except.map]
        rw [← deliver_apply]
        obtain ⟨ts, rfl⟩ := World.transcripts_of_echoInput he
        exact hrest _ rfl
    | false =>
      rw [World.opened_unechoed hfree hlive hecho, if_neg Bool.false_ne_true]
      simp only
      rw [← deliver_apply]
      exact hrest w rfl

end Act

/-- An interpreter that waits for input. -/
def World.waiting (settings : Settings Float) : World Float where
  settings := settings
  prompt := .empty
  cellBoundary := .empty
  cellBeginning := .empty
  notice := .event
  host := ⟨"/", [], [], [], [], "/tmp/fragment.py", .basic, fun _ => none⟩
  projectRoot := none
  clock := 0.0
  scripts := []
  sessions := [.start sharedTarget .default 0 settings.encoding]
  table := [(sharedTarget, 0)]
  transcripts := [.empty]
  records := [(sharedTarget, 0)]
  sources := []
  sent := []
  captures := []
  trace := []

end ReplSend
