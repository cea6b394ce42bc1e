import Mathlib.Logic.Relation
import ReplSend.Action
import ReplSend.Proofs.Request

/-!
# The course of events

Whatever is done or happens is a chain of elementary changes of the state: an event is noted, a
chunk of output arrives, a session is started, a capture is opened, and so on (`Change`). One state
comes after another in the course of events if a chain leads to it (`Course`). Every action is such
a chain, whether it succeeds or fails half way (`course_act`), so what each elementary change
preserves holds after every history, and at every point within an action too (`Course.preserves`).
-/

namespace ReplSend

/-- The event is neither output of a process nor a message about it. -/
def Event.isPlain : Event → Bool
  | output .. | notify _ => false
  | _ => true

namespace Session

/-- A change that neither touches what is known of the session, its output and its readiness, nor
revives the process. -/
structure Minor (s s' : Session) : Prop where
  name : s'.name = s.name
  transcript : s'.transcript = s.transcript
  capture : s'.capture = s.capture
  observers : s'.observers = s.observers
  killed : s'.killed = s.killed
  everReady : s'.everReady = s.everReady
  ended : s.process.ended = true → s'.process.ended = true

theorem Minor.refl (s : Session) : Minor s s := ⟨rfl, rfl, rfl, rfl, rfl, rfl, id⟩

theorem minor_ended (s : Session) : Minor s s.ended := ⟨rfl, rfl, rfl, rfl, rfl, rfl, fun _ => rfl⟩

/-- The session ignores its process from now on. -/
def cutOff (s : Session) : Session := { s with killed := true, observers := [], capture := none }

end Session

namespace World

variable {τ : Type} {w w' : World τ} {n : Nat}

/-- One elementary change of the state. -/
inductive Change : World τ → World τ → Prop
  | note (w : World τ) (e : Event) (h : e.isPlain = true) : Change w (w.note e)
  | arrange (w : World τ) (clock : τ) (scripts : List Script) (sources : Table SourceRecord)
      (sent : Table SentRecord) :
      Change w { w with clock := clock, scripts := scripts, sources := sources, sent := sent }
  | touch (w : World τ) (n : Nat) (f : Session → Session)
      (h : ∀ s, w.sessions[n]? = some s → s.Minor (f s)) : Change w (w.modifySession n f)
  /-- Somebody looks whether a session is ready. -/
  | look (w : World τ) (n : Nat) : Change w (w.isReady n).2
  | output (w : World τ) (n : Nat) (chunk : Text) : Change w (w.dispatch n chunk)
  /-- Input is echoed, line by line. -/
  | echo (w : World τ) (transcript : Nat) (shown : Text) :
      Change w (w.record transcript (shown ++ ['\n']))
  | start (w : World τ) (target : Text) (script : Script) (h : w.table.get? target = none) :
      Change w (w.addSession target script)
  | drop (w : World τ) (target : Text)
      (h : ∀ n, w.table.get? target = some n → w.isAlive n = false) :
      Change w { w with table := w.table.drop target }
  | forget (w : World τ) (target : Text) (h : w.table.get? target = none) :
      Change w { w with records := w.records.drop target }
  | kill (w : World τ) (n : Nat) : Change w (w.modifySession n Session.cutOff)
  | capture (w : World τ) (n : Nat) (hl : w.isAlive n = true)
      (hf : (w.sessions[n]?).any (·.capture.isSome) = false) : Change w (w.installCapture n).2
  | release (w : World τ) (n capture : Nat) : Change w (w.release n capture)

/-- The second state comes after the first in the course of events. -/
abbrev Course : World τ → World τ → Prop := Relation.ReflTransGen Change

namespace Course

/-- What every change preserves holds ever after. -/
theorem preserves {P : World τ → Prop} (h : Course w w')
    (hstep : ∀ {v v' : World τ}, Change v v' → P v → P v') (hw : P w) : P w' := by
  induction h with
  | refl => exact hw
  | tail _ hchange ih => exact hstep hchange ih

theorem note (h : Course w w') {e : Event} (he : e.isPlain = true) : Course w (w'.note e) :=
  h.tail (.note _ _ he)

theorem touch (h : Course w w') {f : Session → Session}
    (hf : ∀ s, w'.sessions[n]? = some s → s.Minor (f s)) : Course w (w'.modifySession n f) :=
  h.tail (.touch _ _ _ hf)

theorem foldl {α : Type} {f : World τ → α → World τ} (h : Course w w')
    (hf : ∀ w a, Course w (f w a)) (l : List α) : Course w (l.foldl f w') := by
  induction l generalizing w' with
  | nil => exact h
  | cons a l ih => exact ih (h.trans (hf w' a))

end Course

/-! ## What happens to processes -/

/-- A change that goes on around session `n` while nothing is sent to it and it is not killed, and
that leaves its transcript to it: what other sessions put out goes elsewhere. -/
inductive Ongoing (n : Nat) : World τ → World τ → Prop
  | note (w : World τ) (e : Event) (h : e.isPlain = true) : Ongoing n w (w.note e)
  | arrange (w : World τ) (clock : τ) (scripts : List Script) (sources : Table SourceRecord)
      (sent : Table SentRecord) :
      Ongoing n w { w with clock := clock, scripts := scripts, sources := sources, sent := sent }
  | touch (w : World τ) (m : Nat) (f : Session → Session)
      (h : ∀ s, w.sessions[m]? = some s → s.Minor (f s)) : Ongoing n w (w.modifySession m f)
  | look (w : World τ) (m : Nat) : Ongoing n w (w.isReady m).2
  | output (w : World τ) (m : Nat) (chunk : Text)
      (h : ∀ s s', w.sessions[m]? = some s → w.sessions[n]? = some s' →
        s.transcript = s'.transcript → m = n) : Ongoing n w (w.dispatch m chunk)

theorem Ongoing.change (h : Ongoing n w w') : Change w w' := by
  cases h with
  | note e he => exact .note w e he
  | arrange clock scripts sources sent => exact .arrange w clock scripts sources sent
  | touch m f hf => exact .touch w m f hf
  | look m => exact .look w m
  | output m chunk => exact .output w m chunk

/-- Meanwhile nothing was sent to session `n`. -/
abbrev Meanwhile (n : Nat) : World τ → World τ → Prop := Relation.ReflTransGen (Ongoing n)

namespace Meanwhile

theorem course (h : Meanwhile n w w') : Course w w' :=
  Relation.ReflTransGen.mono (fun _ _ => Ongoing.change) _ _ h

theorem note (h : Meanwhile n w w') {e : Event} (he : e.isPlain = true) :
    Meanwhile n w (w'.note e) :=
  h.tail (.note _ _ he)

theorem touch (h : Meanwhile n w w') {f : Session → Session}
    (hf : ∀ s, w'.sessions[n]? = some s → s.Minor (f s)) : Meanwhile n w (w'.modifySession n f) :=
  h.tail (.touch _ _ _ hf)

theorem dispatchAll (h : Meanwhile n w w') (chunks : List Text) :
    Meanwhile n w (w'.dispatchAll n chunks) := by
  induction chunks generalizing w' with
  | nil => exact h
  | cons chunk chunks ih => exact ih (h.tail (.output _ _ _ fun _ _ _ _ _ => rfl))

theorem ended (h : Meanwhile n w w') : Meanwhile n w (w'.modifySession n Session.ended) :=
  h.touch fun s _ => s.minor_ended

end Meanwhile

theorem Course.dispatchAll (h : Course w w') (chunks : List Text) :
    Course w (w'.dispatchAll n chunks) :=
  h.trans (Meanwhile.dispatchAll .refl chunks).course

theorem course_ended : Course w (w.modifySession n Session.ended) := (Meanwhile.ended .refl).course

theorem meanwhile_tick : Meanwhile n w (w.tick n) := by
  unfold tick
  split
  · exact .refl
  rename_i s hs
  split
  · exact .refl
  rename_i hended
  have hseen : Meanwhile n w (w.modifySession n fun s' =>
      { s' with process := ⟨{ s.process.script with ticks := s.process.script.ticks.tail },
        s.process.ticksSeen + 1, false⟩ }) := by
    refine Meanwhile.touch .refl fun s' hs' => ⟨rfl, rfl, rfl, rfl, rfl, rfl, fun h => ?_⟩
    rw [hs, Option.some.injEq] at hs'
    exact absurd (hs' ▸ h) hended
  dsimp only
  split
  · exact (hseen.dispatchAll _).ended
  · exact hseen.dispatchAll _

theorem course_tick : Course w (w.tick n) := meanwhile_tick.course

theorem course_sleep [Clock τ] (time : τ) : Course w (w.sleep time) := by
  have hnight : Course w { w.note .sleep with clock := Clock.add w.clock time } :=
    (Course.note .refl rfl).tail (.arrange _ _ _ _ _)
  exact hnight.foldl (fun _ _ => course_tick) _

theorem meanwhile_wrote (bytes : Bytes) (file : Option Bytes) :
    Meanwhile n w (w.wrote n bytes file) := by
  unfold wrote
  split
  · exact .refl
  rename_i s hs
  have hread : Meanwhile n w ((w.note (.write n bytes file)).modifySession n fun s' =>
      { s' with process := { s'.process with
        script := { s.process.script with replies := s.process.script.replies.tail } } }) :=
    (Meanwhile.note .refl rfl).touch fun s' _ => ⟨rfl, rfl, rfl, rfl, rfl, rfl, id⟩
  dsimp only
  split
  · exact (hread.dispatchAll _).ended
  · exact hread.dispatchAll _

theorem course_wrote (bytes : Bytes) (file : Option Bytes) : Course w (w.wrote n bytes file) :=
  (meanwhile_wrote bytes file).course

/-! ## What the manager does -/

theorem course_isReady : Course w (w.isReady n).2 := .single (.look w n)

theorem course_get (target : Text) : Course w (w.get target).2 := by
  unfold get
  split
  · exact .refl
  rename_i n hn
  split
  · exact .refl
  rename_i hdead
  refine .single (.drop w target fun m hm => ?_)
  rw [hn, Option.some.injEq] at hm
  simpa [hm] using hdead

/-- A target that no live session is found for is not in the table any more. -/
theorem get?_of_get {target : Text} (h : (w.get target).1 = none) :
    (w.get target).2.table.get? target = none := by
  revert h
  unfold get
  split
  · rename_i hnone
    exact fun _ => hnone
  split
  · exact nofun
  · exact fun _ => by simp [Table.get?_drop]

theorem course_prune : Course w w.prune := Course.foldl .refl (fun _ target => course_get target) _

theorem course_state : Course w (w.state n).2 := by
  unfold state
  split
  · exact .refl
  · dsimp only
    split
    · exact course_isReady
    · exact course_isReady

theorem course_stateOf (target : Text) : Course w (w.stateOf target).2 := by
  unfold stateOf
  split
  · exact .refl
  · exact course_state

theorem course_isBusy (target : Text) : Course w (w.isBusy target).2 := by
  have hget := course_get (w := w) target
  unfold isBusy
  split
  · rename_i hw'
    rwa [hw'] at hget
  · rename_i hw'
    rw [hw'] at hget
    exact hget.trans course_isReady

theorem course_inspect : Course w (w.inspect n).2 := by
  unfold inspect
  split
  · exact .refl
  · exact course_state.trans course_isReady

theorem course_killSession : Course w (w.killSession n) := by
  unfold killSession
  split
  · exact .refl
  rename_i s hs
  have hcut : Course w (w.modifySession n Session.cutOff) := .single (.kill w n)
  have hend : Course w (if s.process.ended then w.modifySession n Session.cutOff
      else ((w.modifySession n Session.cutOff).note (.kill n)).modifySession n Session.ended) := by
    split
    · exact hcut
    · exact (hcut.note rfl).trans course_ended
  dsimp only
  split
  · exact hend.note rfl
  · exact hend

/-- Killing a session does not look at the table. -/
theorem killSession_drop (target : Text) :
    ({ w with table := w.table.drop target } : World τ).killSession n =
      { w.killSession n with table := (w.killSession n).table.drop target } := by
  unfold killSession
  cases w.sessions[n]? with
  | none => rfl
  | some s =>
    simp only
    cases s.process.ended <;> cases s.process.script.waitTimesOut <;> rfl

theorem table_killSession : (w.killSession n).table = w.table := by
  unfold killSession
  split
  · rfl
  · dsimp only
    split <;> split <;> rfl

theorem isAlive_killSession : (w.killSession n).isAlive n = false := by
  unfold killSession
  split
  · rename_i hs
    simp [isAlive, hs]
  · rename_i s hs
    dsimp only
    split <;> split <;>
      simp [isAlive, modifySession, note, log, hs, Session.alive, Session.ended]

theorem course_killTarget (target : Text) (destroy : Bool) :
    Course w (w.killTarget target destroy).2 := by
  -- The table is told first, but that changes nothing for the session.
  have hremoved : ∀ n, w.table.get? target = some n →
      Course w (({ w with table := w.table.drop target } : World τ).killSession n) := by
    intro n hn
    rw [killSession_drop]
    refine course_killSession.tail (.drop _ target fun m hm => ?_)
    rw [table_killSession, hn, Option.some.injEq] at hm
    exact hm ▸ isAlive_killSession
  have hgone : ∀ n, (({ w with table := w.table.drop target } : World τ).killSession n).table.get?
      target = none := fun n => by
    rw [table_killSession, Table.get?_drop, if_pos rfl]
  unfold killTarget
  cases hn : w.table.get? target with
  | none =>
    cases destroy with
    | false => exact .refl
    | true =>
      exact .tail (.single (.forget w target hn)) (.arrange _ _ _ _ _)
  | some n =>
    have hlogged := (hremoved n hn).note (e := .log .info
      ("session.kill target=" ++ target ++ " pid=" ++ Text.ofNat (pid n))) rfl
    cases destroy with
    | false => exact hlogged
    | true => exact (hlogged.tail (.forget _ target (hgone n))).tail (.arrange _ _ _ _ _)

theorem course_killEach (destroy : Bool) (answers : Option (List Bool)) (targets : List Text) :
    Course w (killEach destroy answers targets w).2 := by
  induction targets generalizing w answers with
  | nil => cases answers <;> exact .refl
  | cons target targets ih =>
    cases answers with
    | none => exact (course_killTarget target destroy).trans (ih none)
    | some answers =>
      have hasked := Course.note (w := w) .refl
        (e := .confirm ("Kill Python shell " ++ target ++ (['?'] : Text))) rfl
      unfold killEach
      dsimp only
      split
      · exact (hasked.trans (course_killTarget target destroy)).trans (ih _)
      · exact hasked.trans (ih _)

theorem course_killAll (confirmation : Confirmation) (destroy : Bool) :
    Course w (w.killAll confirmation destroy).2 := by
  refine course_prune.trans ?_
  unfold killAll
  cases confirmation with
  | none => exact course_killEach _ _ _
  | each answers => exact course_killEach _ _ _
  | once answers =>
    dsimp only
    split
    · exact .refl
    split
    · exact (Course.note .refl rfl).trans (course_killEach _ _ _)
    · exact Course.note .refl rfl

theorem course_setDedicated (source : Text) (enabled : Bool) :
    Course w (w.setDedicated source enabled) :=
  .single (.arrange w w.clock w.scripts _ w.sent)

theorem course_setLocalTarget (source : Text) (target : Option Text) :
    Course w (w.setLocalTarget source target) :=
  .single (.arrange w w.clock w.scripts _ w.sent)

theorem course_markSent (b : Buffer) (block : Block) : Course w (w.markSent n b block) :=
  .single (.arrange w w.clock w.scripts w.sources _)

/-! ## What a request does -/

/-- An echo adds lines to the transcript of its session, or nothing. -/
theorem echoInput_eq_ok {t : Text} (h : w.echoInput n t = .ok w') : w' = w ∨
    ∃ s shown, w.sessions[n]? = some s ∧ Echo.prepare w.settings.echoHead w.settings.echoTail t =
      .ok shown ∧ Text.allBlank shown = false ∧
      w' = w.record s.transcript (Echo.withPrompts shown ++ ['\n']) := by
  unfold echoInput at h
  split at h
  · cases h
  rename_i shown hshown
  split at h
  · exact .inl (Except.ok.inj h).symm
  rename_i hblank
  split at h
  · exact .inl (Except.ok.inj h).symm
  · rename_i s hs
    exact .inr ⟨s, shown, hs, hshown, Bool.eq_false_iff.2 hblank, (Except.ok.inj h).symm⟩

theorem course_echoInput {t : Text} (h : w.echoInput n t = .ok w') : Course w w' := by
  obtain rfl | ⟨s, shown, -, -, -, rfl⟩ := echoInput_eq_ok h
  · exact .refl
  · exact .single (.echo _ _ _)

theorem course_readied {r : Request} (hb : w.blocked n r = false) (hl : w.isAlive n = true) :
    Course w (w.readied n r).2 := by
  unfold readied
  split
  · rename_i hc
    refine .single (.capture w n hl ?_)
    simpa [blocked, hc] using hb
  · exact .refl

theorem course_opened {r : Request} {p : Option Nat × World τ} (h : w.opened n r = .ok p) :
    Course w p.2 := by
  cases hb : w.blocked n r with
  | true => cases (opened_of_blocked hb).symm.trans h
  | false =>
  cases hl : w.isAlive n with
  | false => cases (opened_of_dead hb hl).symm.trans h
  | true =>
  cases he : w.settings.echoInput && r.echo with
  | false =>
    rw [opened_unechoed hb hl he] at h
    cases h
    exact course_readied hb hl
  | true =>
    rw [opened_echoed hb hl he] at h
    cases hshown : w.echoInput n r.text with
    | error e =>
      rw [hshown] at h
      cases h
    | ok v =>
      rw [hshown] at h
      cases h
      have hv := course_echoInput hshown
      obtain ⟨ts, rfl⟩ := transcripts_of_echoInput hshown
      exact hv.trans (course_readied hb hl)

theorem meanwhile_remembered {r : Request} : Meanwhile n w (w.remembered n r) := by
  unfold remembered
  split
  · exact Meanwhile.touch .refl fun s _ => ⟨rfl, rfl, rfl, rfl, rfl, rfl, id⟩
  · exact .refl

theorem course_remembered {r : Request} : Course w (w.remembered n r) :=
  meanwhile_remembered.course

theorem course_withdrawn (c : Option Nat) : Course w (w.withdrawn n c) := by
  cases c with
  | none => exact .refl
  | some c =>
    simp only [withdrawn, abandon]
    split
    · exact .refl
    · exact .single (.release w n c)

end World

/-! ## Operations and actions -/

namespace Act

variable {τ : Type} {w : World τ} {n : Nat}

open World (Course)

/-- The command of an interpreter was run, whether or not a process came of it. -/
def ran (w : World τ) (executable directory : Text) : World τ :=
  { w.note (.spawn (executable :: w.settings.interpreterArgs) directory w.ioEncoding) with
    scripts := w.scripts.tail }

/-- What it can come to when a target is to get a session: there is no directory or no interpreter
for it, the interpreter does not start, or it has a new one. -/
inductive Spawned (w : World τ) (target : Text) (source : Option Buffer) :
    Except Failure Nat × World τ → Prop
  | refused (e : Failure) (he : w.workingDirectory source = .error e ∨ w.interpreter = .error e) :
      Spawned w target source (.error e, w)
  | faulted (executable directory reason : Text) :
      Spawned w target source (.error (.notStarted executable reason), ran w executable directory)
  | started (executable directory line : Text) (script : Script) :
      Spawned w target source (.ok w.sessions.length,
        ((ran w executable directory).addSession target script).log .info line)

theorem spawned (w : World τ) (target : Text) (source : Option Buffer) :
    Spawned w target source (spawn target source w) := by
  unfold spawn
  simp only [bind_apply, get_apply, ofExcept_apply]
  cases hd : w.workingDirectory source with
  | error e => exact .refused e (.inl hd)
  | ok directory =>
  cases hi : w.interpreter with
  | error e => exact .refused e (.inr hi)
  | ok executable =>
  dsimp only
  cases (w.scripts.head?.getD .default).startFault with
  | some reason => exact .faulted executable directory reason
  | none => exact .started executable directory _ _

theorem course_spawn {target : Text} (h : w.table.get? target = none) (source : Option Buffer) :
    Course w (spawn target source w).2 := by
  have hran : ∀ executable directory, Course w (ran w executable directory) := fun _ _ =>
    (Course.note .refl rfl).tail (.arrange _ _ _ _ _)
  have hspawned := spawned w target source
  generalize spawn target source w = p at hspawned
  cases hspawned with
  | refused e => exact .refl
  | faulted executable directory => exact hran _ _
  | started executable directory line script =>
    exact Course.note ((hran _ _).tail (.start _ target script h)) rfl

theorem course_getOrCreate (target : Option Text) (source : Option Buffer) :
    Keeps Course (getOrCreate target source : Act τ Nat) := by
  intro w
  unfold getOrCreate
  simp only [bind_apply, get_apply]
  generalize (target.filter (!·.isEmpty)).getD (w.targetFor source) = name
  rw [show change (·.get name) w = (.ok (w.get name).1, (w.get name).2) from rfl]
  dsimp only
  cases hfound : (w.get name).1 with
  | some n => exact World.course_get name
  | none => exact (World.course_get name).trans (course_spawn (World.get?_of_get hfound) source)

theorem course_awaitReady [Clock τ] (deadline : τ) (limit : Nat) :
    Keeps Course (awaitReady n deadline limit) := by
  induction limit with
  | zero => exact keeps_pure ()
  | succ limit ih =>
    refine (keeps_change fun w => World.course_isReady).bind fun ready => ?_
    cases ready with
    | true => exact keeps_pure ()
    | false =>
      refine keeps_get.bind fun w => ?_
      dsimp only
      split
      · exact keeps_update fun w => Course.note .refl rfl
      · exact (keeps_update fun w => World.course_sleep _).bind fun _ => ih

theorem course_ensureRunning [Clock τ] (target : Option Text) (source : Option Buffer) :
    Keeps Course (ensureRunning target source : Act τ Nat) :=
  (course_getOrCreate target source).bind fun n => keeps_get.bind fun _ =>
    (course_awaitReady _ _).bind fun _ => keeps_pure n

theorem course_transmit (encoding : Text) (keepMain : Bool) (t : Text) :
    Keeps Course (transmit n encoding keepMain t : Act τ Unit) := by
  intro w
  rw [transmit_apply]
  split
  · exact World.course_wrote _ _
  · exact .refl

theorem course_request (r : Request) : Keeps Course (request n r : Act τ (Option Nat)) := by
  intro w
  rw [request_apply]
  cases ho : w.opened n r with
  | error e => exact .refl
  | ok p =>
    have hopened := World.course_opened ho
    dsimp only
    split
    · exact (hopened.trans (World.course_wrote _ _)).trans World.course_remembered
    · exact hopened.trans (World.course_withdrawn _)

theorem course_plainSend (t : Text) : Keeps Course (plainSend n t : Act τ Unit) := by
  refine Keeps.bind ?_ fun _ => keeps_get.bind fun w => course_transmit _ _ _
  refine keeps_get.bind fun w => ?_
  split
  · exact keeps_pure ()
  · exact keeps_throw _

theorem course_echoInput (t : Text) : Keeps Course (echoInput n t : Act τ Unit) := by
  intro w
  rw [echoInput_apply]
  cases h : w.echoInput n t with
  | error e => exact .refl
  | ok w' => exact World.course_echoInput h

variable [Clock τ]

theorem course_sendBlock (b : Buffer) (block : Block) (t : Text) (step keepMain : Bool) :
    Keeps Course (sendBlock b block t step keepMain : Act τ Outcome) :=
  (course_ensureRunning _ _).bind fun _ => (course_request _).bind fun _ =>
    (keeps_update fun _ => World.course_markSent _ _).bind fun _ => keeps_get.bind fun _ =>
      (keeps_update fun _ => Course.note .refl rfl).bind fun _ => keeps_pure _

theorem course_send (b : Buffer) (selection : Selection) (step : Bool) :
    Keeps Course (send b selection step : Act τ Outcome) :=
  keeps_get.bind fun _ => (keeps_ofExcept _).bind fun _ => course_sendBlock _ _ _ _ _

theorem course_sendFile (path : Text) (source : Option Buffer) (encoding : Option Text)
    (keepMain : Bool) : Keeps Course (sendFile path source encoding keepMain : Act τ Outcome) := by
  refine keeps_get.bind fun w => ?_
  cases source with
  | some b => exact (keeps_pure b).bind fun _ => course_sendBlock _ _ _ _ _
  | none => exact (keeps_ofExcept _).bind fun _ => course_sendBlock _ _ _ _ _

end Act

theorem Action.course_run {τ : Type} [Clock τ] (a : Action) :
    Act.Keeps World.Course (a.run : Act τ Answer) := by
  have hfinished : ∀ c, Act.Keeps World.Course (Action.finished c : Act τ Bool) :=
    fun c => Act.keeps_get.bind fun _ => Act.keeps_pure _
  have hmodify : ∀ (n : Nat) (f : Session → Session), (∀ s, Session.Minor s (f s)) →
      Act.Keeps World.Course (Act.update (·.modifySession n f) : Act τ Unit) :=
    fun n f hf => Act.keeps_update fun w => World.Course.touch .refl fun s _ => hf s
  cases a with
  | send b selection step =>
    exact (Act.course_send b selection step).bind fun _ => (hfinished _).bind fun _ =>
      Act.keeps_pure _
  | sendFile path source encoding keepMain =>
    exact (Act.course_sendFile path source encoding keepMain).bind fun _ =>
      (hfinished _).bind fun _ => Act.keeps_pure _
  | request n r =>
    refine (Act.course_request r).bind fun c => ?_
    cases c with
    | none => exact Act.keeps_pure _
    | some c => exact (hfinished _).bind fun _ => Act.keeps_pure _
  | plainSend n t => exact (Act.course_plainSend t).bind fun _ => Act.keeps_pure _
  | echoInput n t => exact (Act.course_echoInput t).bind fun _ => Act.keeps_pure _
  | policies n => exact Act.keeps_get.bind fun _ => Act.keeps_pure _
  | output n chunks =>
    exact (Act.keeps_update fun _ => World.Course.dispatchAll .refl chunks).bind fun _ =>
      Act.keeps_pure _
  | exit n => exact (hmodify n _ Session.minor_ended).bind fun _ => Act.keeps_pure _
  | setInput n mode =>
    refine Act.Keeps.bind (hmodify n _ ?_) fun _ => Act.keeps_pure _
    exact fun s => ⟨rfl, rfl, rfl, rfl, rfl, rfl, id⟩
  | setVisible n visible =>
    refine Act.Keeps.bind (hmodify n _ ?_) fun _ => Act.keeps_pure _
    exact fun s => ⟨rfl, rfl, rfl, rfl, rfl, rfl, id⟩
  | inspect n =>
    refine (Act.keeps_change fun w => World.course_inspect).bind fun i => ?_
    cases i <;> exact Act.keeps_pure _
  | get target =>
    exact (Act.keeps_change fun _ => World.course_get _).bind fun _ => Act.keeps_pure _
  | getOrCreate target source =>
    exact (Act.course_getOrCreate target source).bind fun _ => Act.keeps_pure _
  | ensureRunning target source =>
    exact (Act.course_ensureRunning target source).bind fun _ => Act.keeps_pure _
  | state target =>
    exact (Act.keeps_change fun _ => World.course_stateOf _).bind fun _ => Act.keeps_pure _
  | isBusy target =>
    exact (Act.keeps_change fun _ => World.course_isBusy _).bind fun _ => Act.keeps_pure _
  | transcript target => exact Act.keeps_get.bind fun _ => Act.keeps_pure _
  | lastSent target => exact Act.keeps_get.bind fun _ => Act.keeps_pure _
  | sessions => exact (Act.keeps_change fun _ => World.course_prune).bind fun _ => Act.keeps_pure _
  | targetFor source => exact Act.keeps_get.bind fun _ => Act.keeps_pure _
  | isDedicated b => exact Act.keeps_get.bind fun _ => Act.keeps_pure _
  | toggleDedicated b =>
    exact (Act.keeps_change fun _ => (World.course_setDedicated _ _).note rfl).bind fun _ =>
      Act.keeps_pure _
  | setDedicated b enabled =>
    exact (Act.keeps_update fun _ => World.course_setDedicated _ _).bind fun _ => Act.keeps_pure _
  | setLocalTarget b target =>
    exact (Act.keeps_update fun _ => World.course_setLocalTarget _ _).bind fun _ =>
      Act.keeps_pure _
  | workingDirectory source =>
    exact Act.keeps_get.bind fun _ => (Act.keeps_ofExcept _).bind fun _ => Act.keeps_pure _
  | kill target destroy =>
    exact (Act.keeps_change fun _ => World.course_killTarget _ _).bind fun _ => Act.keeps_pure _
  | killSource source destroy =>
    exact (Act.keeps_change fun _ => World.course_killTarget _ _).bind fun _ => Act.keeps_pure _
  | killAll confirmation destroy =>
    exact (Act.keeps_change fun _ => World.course_killAll _ _).bind fun _ => Act.keeps_pure _
  | killSession n =>
    exact (Act.keeps_update fun _ => World.course_killSession).bind fun _ => Act.keeps_pure _

namespace World

variable {τ : Type} {w : World τ}

section Clock

variable [Clock τ]

theorem course_act (w : World τ) (a : Action) : Course w (w.act a).2 := a.course_run w

theorem course_after (w : World τ) (history : List Action) : Course w (w.after history) :=
  Course.foldl .refl course_act history

end Clock

/-- Nothing has happened yet. -/
structure Untouched (w : World τ) : Prop where
  prompt : Prompt.pattern w.host.named w.settings.promptRegexp = .ok w.prompt
  sessions : w.sessions = []
  table : w.table = []
  transcripts : w.transcripts = []
  records : w.records = []
  captures : w.captures = []
  trace : w.trace = []

theorem untouched_initial {settings : Settings τ} {start : τ} {host : Host} {scripts : List Script}
    {notice : Notice} {projectRoot : Option (Option Text)}
    (h : initial? settings start host scripts notice projectRoot = .ok w) :
    w.settings = settings ∧ w.Untouched := by
  unfold initial? at h
  split at h
  · rename_i prompt _ _ hprompt _ _
    cases h
    exact ⟨rfl, hprompt, rfl, rfl, rfl, rfl, rfl, rfl⟩
  all_goals cases h

end World

/-- A host with one interpreter. -/
def Host.plain : Host where
  current := "/"
  directories := []
  files := []
  executables := ["/bin/python3"]
  environment := [("PATH", "/bin")]
  temporary := "/tmp/fragment.py"
  codecs := .basic
  named _ := none

/-- The beginning under the default settings, with no plans for the processes. -/
def World.beginning : World Float where
  settings := .default
  prompt := (Prompt.pattern Host.plain.named Prompt.defaultRegexp).toOption.getD .empty
  cellBoundary := (Pattern.parse Host.plain.named Cell.boundaryRegexp).toOption.getD .empty
  cellBeginning := (Pattern.parse Host.plain.named Cell.beginningRegexp).toOption.getD .empty
  notice := .event
  host := .plain
  projectRoot := none
  clock := 0.0
  scripts := []
  sessions := []
  table := []
  transcripts := []
  records := []
  sources := []
  sent := []
  captures := []
  trace := []

/-- Other settings with the same patterns begin alike, on any host. -/
theorem World.initial?_default {settings : Settings Float} (host : Host)
    (hprompt : settings.promptRegexp = Settings.default.promptRegexp)
    (hboundary : settings.cellBoundary = Settings.default.cellBoundary)
    (hbeginning : settings.cellBeginning = Settings.default.cellBeginning) :
    initial? settings 0.0 host [] .event none =
      .ok { beginning with settings := settings, host := host } := by
  unfold initial?
  rw [hprompt, hboundary, hbeginning]
  rfl

theorem World.initial?_beginning :
    initial? Settings.default 0.0 .plain [] .event none = .ok beginning :=
  initial?_default .plain rfl rfl rfl

end ReplSend
