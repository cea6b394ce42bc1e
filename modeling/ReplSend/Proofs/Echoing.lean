import ReplSend.Proofs.Request

/-!
# What echoes can change

Echoing is meant for display: whether and how much of a request is echoed should change nothing but
transcripts. It does change more when the echo cannot be made, which happens to texts that can be
transmitted (`sameSend_iff`). The proof runs a request in two worlds at once that look alike when
the transcripts and the echo settings are left out (`beyondEcho`).
-/

namespace ReplSend

namespace World

variable {τ : Type} {w : World τ} {n : Nat} {r : Request}

/-- The same world with other settings for echoes. -/
def withEcho (w : World τ) (input : Bool) (head tail : Nat) : World τ :=
  { w with settings := { w.settings with echoInput := input, echoHead := head, echoTail := tail } }

/-- The world without its transcripts and its settings for echoes. -/
def beyondEcho (w : World τ) : World τ := { w.withEcho false 0 0 with transcripts := [] }

/-! ## Operations that neither read nor write what is left out -/

theorem beyondEcho_foldl {α : Type} {f : World τ → α → World τ}
    (hf : ∀ w a, (f w a).beyondEcho = f w.beyondEcho a) (l : List α) (w : World τ) :
    (l.foldl f w).beyondEcho = l.foldl f w.beyondEcho :=
  (List.foldl_hom beyondEcho fun w a => (hf w a).symm).symm

theorem beyondEcho_notify (m : Message) : (w.notify m).beyondEcho = w.beyondEcho.notify m := by
  simp only [notify, show w.beyondEcho.notice = w.notice from rfl]
  cases w.notice <;> rfl

theorem beyondEcho_signal (c : Nat) (s : Signal) :
    (w.signal n c s).beyondEcho = w.beyondEcho.signal n c s := by
  cases s with
  | flush => rfl
  | summary m => exact beyondEcho_notify m

theorem beyondEcho_feed (c : Nat) (chunk : Text) :
    (w.feed n c chunk).beyondEcho = w.beyondEcho.feed n c chunk := by
  simp only [feed, show w.beyondEcho.captures = w.captures from rfl]
  cases w.captures[c]? with
  | none => rfl
  | some capture => exact beyondEcho_foldl (fun _ s => beyondEcho_signal c s) _ _

theorem record_beyondEcho (transcript : Nat) (chunk : Text) :
    w.beyondEcho.record transcript chunk = w.beyondEcho := by
  simp [record, beyondEcho]

theorem beyondEcho_dispatch (chunk : Text) :
    (w.dispatch n chunk).beyondEcho = w.beyondEcho.dispatch n chunk := by
  simp only [dispatch, show w.beyondEcho.sessions = w.sessions from rfl]
  cases w.sessions[n]? with
  | none => rfl
  | some s =>
    simp only [record_beyondEcho]
    split
    · rfl
    · exact beyondEcho_foldl (f := fun w c => w.feed n c chunk)
        (fun _ c => beyondEcho_feed c chunk) _ _

theorem beyondEcho_dispatchAll (chunks : List Text) :
    (w.dispatchAll n chunks).beyondEcho = w.beyondEcho.dispatchAll n chunks :=
  beyondEcho_foldl (fun _ chunk => beyondEcho_dispatch chunk) _ _

theorem beyondEcho_wrote (bytes : Bytes) (file : Option Bytes) :
    (w.wrote n bytes file).beyondEcho = w.beyondEcho.wrote n bytes file := by
  simp only [wrote, show w.beyondEcho.sessions = w.sessions from rfl]
  cases w.sessions[n]? with
  | none => rfl
  | some s =>
    simp only
    split
    · exact congrArg (·.modifySession n Session.ended) (beyondEcho_dispatchAll _)
    · exact beyondEcho_dispatchAll _

theorem beyondEcho_readied :
    ((w.readied n r).1, (w.readied n r).2.beyondEcho) = w.beyondEcho.readied n r := by
  simp only [readied, show w.beyondEcho.capturing n r = w.capturing n r from rfl]
  split <;> rfl

theorem beyondEcho_remembered : (w.remembered n r).beyondEcho = w.beyondEcho.remembered n r := by
  unfold remembered
  split <;> rfl

theorem beyondEcho_withdrawn (c : Option Nat) :
    (w.withdrawn n c).beyondEcho = w.beyondEcho.withdrawn n c := by
  cases c with
  | none => rfl
  | some c =>
    simp only [withdrawn, abandon, show w.beyondEcho.isFlushed c = w.isFlushed c from rfl]
    split <;> rfl

/-! ## Two runs -/

/-- Two runs of a request go the same way: both fail, or both succeed with the same capture and
leave the same behind, what was written among it, but for what is left out. -/
def SameSend : Except Failure (Option Nat) × World τ → Except Failure (Option Nat) × World τ → Prop
  | (.ok c, w), (.ok c', w') => c = c' ∧ w.beyondEcho = w'.beyondEcho
  | (.error _, _), (.error _, _) => True
  | _, _ => False

/-- Nothing can be shown of the text of a request. -/
def Unshowable (r : Request) : Prop := ∃ line, Fragment.dedent (Loader.strip r.text) = .error line

/-- The text of a request can be transmitted. -/
def Transmits (w : World τ) (n : Nat) (r : Request) : Prop :=
  ∃ bytes file, w.transmission n w.settings.encoding r.keepMain r.text = .ok (bytes, file)

instance : Decidable (Unshowable r) :=
  decidable_of_iff ((Fragment.dedent (Loader.strip r.text)).toOption = none) <| by
    unfold Unshowable
    cases Fragment.dedent (Loader.strip r.text) <;> simp [Except.toOption]

instance : Decidable (w.Transmits n r) :=
  decidable_of_iff
    ((w.transmission n w.settings.encoding r.keepMain r.text).toOption.isSome = true) <| by
    unfold Transmits
    rcases w.transmission n w.settings.encoding r.keepMain r.text with e | ⟨bytes, file⟩ <;>
      simp [Except.toOption]

theorem echoInput_eq_error {t : Text} {e : Failure} : w.echoInput n t = .error e ↔
    ∃ line, Fragment.dedent (Loader.strip t) = .error line ∧ e = .shallow line := by
  unfold echoInput Echo.prepare
  cases Fragment.dedent (Loader.strip t) with
  | error line => simp [Except.map, eq_comm]
  | ok shown =>
    simp only [Except.map]
    split
    · simp
    · split <;> simp

/-- A request whose echo can be made runs as it would without any echo. -/
theorem beyondEcho_request (h : (w.settings.echoInput && r.echo) = false ∨ ¬ Unshowable r) :
    ((Act.request n r w).1, (Act.request n r w).2.beyondEcho) =
      Act.request n r w.beyondEcho := by
  rw [Act.request_apply, Act.request_apply]
  cases hb : w.blocked n r with
  | true =>
    rw [opened_of_blocked hb, opened_of_blocked (w := w.beyondEcho) hb]
    rfl
  | false =>
  cases hl : w.isAlive n with
  | false =>
    rw [opened_of_dead hb hl, opened_of_dead (w := w.beyondEcho) hb hl]
    rfl
  | true =>
  rw [opened_unechoed (w := w.beyondEcho) hb hl rfl]
  obtain ⟨w', hw', hsame, henc⟩ : ∃ w' : World τ, w.opened n r = .ok (w'.readied n r) ∧
      w'.beyondEcho = w.beyondEcho ∧ w'.settings.encoding = w.settings.encoding := by
    cases he : w.settings.echoInput && r.echo with
    | false => exact ⟨w, opened_unechoed hb hl he, rfl, rfl⟩
    | true =>
      rw [opened_echoed hb hl he]
      cases hshown : w.echoInput n r.text with
      | error e =>
        obtain ⟨line, hline, -⟩ := echoInput_eq_error.1 hshown
        rcases h with h | h
        · rw [h] at he
          cases he
        · exact absurd ⟨line, hline⟩ h
      | ok w' =>
        obtain ⟨ts, rfl⟩ := transcripts_of_echoInput hshown
        exact ⟨_, rfl, rfl, rfl⟩
  rw [hw', ← hsame, ← henc, ← beyondEcho_readied]
  have htrans : ∀ enc, (w'.readied n r).2.beyondEcho.transmission n enc r.keepMain r.text =
      w'.transmission n enc r.keepMain r.text := fun enc => transmission_readied
  simp only [htrans, transmission_readied, show w'.beyondEcho.settings.encoding =
    w'.settings.encoding from rfl]
  rcases w'.transmission n w'.settings.encoding r.keepMain r.text with e | ⟨bytes, file⟩
  · simp only [beyondEcho_withdrawn]
  · simp only [beyondEcho_remembered, beyondEcho_wrote]

/-- A request whose echo cannot be made fails before anything is transmitted. -/
theorem request_of_unshowable (hb : w.blocked n r = false) (hl : w.isAlive n = true)
    (he : (w.settings.echoInput && r.echo) = true) (hu : Unshowable r) :
    ∃ line, Act.request n r w = (.error (.shallow line), w) := by
  obtain ⟨line, hline⟩ := hu
  refine ⟨line, ?_⟩
  rw [Act.request_apply, opened_echoed hb hl he,
    (echoInput_eq_error (w := w) (n := n)).2 ⟨line, hline, rfl⟩]
  rfl

theorem request_unechoed (hb : w.blocked n r = false) (hl : w.isAlive n = true)
    (he : (w.settings.echoInput && r.echo) = false) :
    (∃ c, (Act.request n r w).1 = .ok c) ↔ w.Transmits n r := by
  rw [Act.request_apply, opened_unechoed hb hl he]
  simp only [transmission_readied, Transmits]
  rcases w.transmission n w.settings.encoding r.keepMain r.text with e | ⟨bytes, file⟩ <;> simp

theorem SameSend.of_eq {x y : Except Failure (Option Nat) × World τ}
    (h : (x.1, x.2.beyondEcho) = (y.1, y.2.beyondEcho)) : SameSend x y := by
  rcases x with ⟨_ | _, _⟩ <;> rcases y with ⟨_ | _, _⟩ <;> simp_all [SameSend]

theorem SameSend.comm {x y : Except Failure (Option Nat) × World τ} :
    SameSend x y ↔ SameSend y x := by
  rcases x with ⟨_ | _, _⟩ <;> rcases y with ⟨_ | _, _⟩ <;> simp [SameSend, eq_comm]

theorem sameSend_error {x : Except Failure (Option Nat) × World τ} {e : Failure} :
    SameSend (.error e, w) x ↔ ¬ ∃ c, x.1 = .ok c := by
  rcases x with ⟨_ | _, _⟩ <;> simp [SameSend]

/-- For a live session with no capture pending, a request goes the same way whatever the settings
for echoes, unless nothing can be shown of a text that can be transmitted. -/
theorem sameSend_iff (hl : w.isAlive n = true)
    (hfree : (w.sessions[n]?).any (·.capture.isSome) = false) (r : Request)
    (input input' : Bool) (head tail head' tail' : Nat) :
    SameSend (Act.request n r (w.withEcho input head tail))
        (Act.request n r (w.withEcho input' head' tail')) ↔
      ¬ (input ≠ input' ∧ r.echo = true ∧ Unshowable r ∧ w.Transmits n r) := by
  have hb : ∀ i h t, (w.withEcho i h t).blocked n r = false := fun i h t => by
    simp [blocked, withEcho, hfree]
  have hplain : ∀ i h t, (i && r.echo) = false ∨ ¬ Unshowable r →
      ((Act.request n r (w.withEcho i h t)).1, (Act.request n r (w.withEcho i h t)).2.beyondEcho) =
        Act.request n r w.beyondEcho := fun i h t hok => beyondEcho_request hok
  by_cases hu : r.echo = true ∧ Unshowable r
  · obtain ⟨hecho, hu⟩ := hu
    -- With the echo on nothing is transmitted; without it the text decides.
    have hone : ∀ h t h' t', SameSend (Act.request n r (w.withEcho true h t))
        (Act.request n r (w.withEcho false h' t')) ↔ ¬ w.Transmits n r := by
      intro h t h' t'
      obtain ⟨line, hline⟩ := request_of_unshowable (hb true h t) hl hecho hu
      rw [hline, sameSend_error, request_unechoed (hb false h' t') hl rfl]
      rfl
    cases input <;> cases input'
    · simpa using SameSend.of_eq ((hplain _ _ _ (.inl rfl)).trans (hplain _ _ _ (.inl rfl)).symm)
    · rw [SameSend.comm, hone]
      simp [hecho, hu]
    · simp [hone, hecho, hu]
    · obtain ⟨line, hline⟩ := request_of_unshowable (hb true head tail) hl hecho hu
      obtain ⟨line', hline'⟩ := request_of_unshowable (hb true head' tail') hl hecho hu
      simp [hline, hline', SameSend]
  · have hok : ∀ i, (i && r.echo) = false ∨ ¬ Unshowable r := by
      intro i
      by_cases hecho : r.echo = true
      · exact .inr fun h => hu ⟨hecho, h⟩
      · exact .inl (by simp [hecho])
    have hsame := SameSend.of_eq
      ((hplain input head tail (hok _)).trans (hplain input' head' tail' (hok _)).symm)
    exact ⟨fun _ h => hu ⟨h.2.1, h.2.2.1⟩, fun _ => hsame⟩

theorem sameSend_iff_compound :
    SameSend
      (Act.request 0 ⟨"if x:\n    y = 1\nz", true, true, true⟩
        ((waiting .default).withEcho true 10 10))
      (Act.request 0 ⟨"if x:\n    y = 1\nz", true, true, true⟩
        ((waiting .default).withEcho false 0 0)) :=
  (sameSend_iff (by decide +kernel) (by decide +kernel) _ _ _ _ _ _ _).2
    fun h => absurd h.2.2.1 (by decide +kernel)

/-- A guard at the top of a text is taken for one that sending added. Without it the last line of
this text, which is at the margin as it stands, is too shallow for an echo. -/
theorem not_sameSend_guarded : ∃ (w : World Float) (n : Nat) (r : Request),
    w.isAlive n = true ∧ (w.sessions[n]?).any (·.process.script.input = .open) = true ∧
      (w.sessions[n]?).any (·.capture.isSome) = false ∧
      (Fragment.dedent r.text).toOption = some r.text ∧
      ¬ SameSend (Act.request n r (w.withEcho true 10 10))
        (Act.request n r (w.withEcho false 10 10)) := by
  refine ⟨waiting .default, 0, ⟨"if True:\n    x = 1\ny = 2", true, false, true⟩,
    by decide +kernel, by decide +kernel, by decide +kernel, by decide +kernel, ?_⟩
  obtain ⟨line, hline⟩ := request_of_unshowable (n := 0)
    (w := (waiting .default).withEcho true 10 10)
    (r := ⟨"if True:\n    x = 1\ny = 2", true, false, true⟩) (by decide +kernel)
    (by decide +kernel) (by decide +kernel) (by decide +kernel)
  rw [hline, sameSend_error, request_unechoed (by decide +kernel) (by decide +kernel)
    (by decide +kernel)]
  decide +kernel

end World

end ReplSend
