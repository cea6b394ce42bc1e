import ReplSend.Proofs.Quiet
import ReplSend.Proofs.Request
import ReplSend.Proofs.Text.Cookie

/-!
# What a send writes

A send that succeeds writes once (`send_eq_ok`). When it writes a loading command, the text that
the interpreter then reads is the text that was sent exactly if the text declares the encoding of
the file or has nothing to declare (`load?_send`): the file is in the encoding of the settings, a
cookie names that of the buffer, and without a cookie UTF-8 is taken for granted.
-/

namespace ReplSend

namespace World

variable {τ : Type} {w w' : World τ} {n : Nat} {r : Request} {bytes : Bytes} {file : Option Bytes}

theorem offered_eq_ok {data : Text} (h : w.offered n data = .ok bytes) :
    ∃ s c, w.sessions[n]? = some s ∧ w.host.codecs.find? s.encoding = some c ∧
      c.encode? data = some bytes := by
  unfold offered Session.taken at h
  split at h
  · cases h
  rename_i s hs
  split at h
  · cases h
  split at h
  · cases h
  rename_i c hc
  split at h
  · rename_i b hb _
    cases h
    exact ⟨s, c, hs, hc, hb⟩
  · cases h

/-- What is transmitted is a line in the encoding of the session: the text itself, or a loading
command for it. -/
theorem line_of_transmission {encoding t : Text} {keepMain : Bool}
    (h : w.transmission n encoding keepMain t = .ok (bytes, file)) :
    ∃ s c line, w.sessions[n]? = some s ∧ w.host.codecs.find? s.encoding = some c ∧
      c.encode? (line ++ ['\n']) = some bytes ∧
      match file with
      | none => isSimpleLine t = true ∧ line = withoutLineEnds t
      | some f => line = Loader.command w.host.temporary encoding keepMain true ∧
        ∃ e, w.host.codecs.find? encoding = some e ∧ e.written? t = some f := by
  unfold transmission at h
  split at h
  · rename_i hsimple
    cases ho : w.offered n (withoutLineEnds t ++ ['\n']) with
    | error e =>
      rw [ho] at h
      cases h
    | ok b =>
      rw [ho] at h
      cases h
      obtain ⟨s, c, hs, hc, hencode⟩ := offered_eq_ok ho
      exact ⟨s, c, _, hs, hc, hencode, hsimple, rfl⟩
  split at h
  · cases h
  rename_i e he
  split at h
  · cases h
  rename_i f hf
  cases ho : w.offered n (Loader.command w.host.temporary encoding keepMain true ++ ['\n']) with
  | error e =>
    rw [ho] at h
    cases h
  | ok b =>
    rw [ho] at h
    cases h
    obtain ⟨s, c, hs, hc, hencode⟩ := offered_eq_ok ho
    exact ⟨s, c, _, hs, hc, hencode, rfl, e, he, hf⟩

theorem transmission_eq_ok {encoding t : Text} {keepMain : Bool}
    (h : w.transmission n encoding keepMain t = .ok (bytes, file)) :
    ∃ s, w.sessions[n]? = some s ∧ ∀ f, file = some f → ∃ e c,
      w.host.codecs.find? encoding = some e ∧ e.written? t = some f ∧
        w.host.codecs.find? s.encoding = some c ∧
        c.encode? (Loader.command w.host.temporary encoding keepMain true ++ ['\n']) =
          some bytes := by
  obtain ⟨s, c, line, hs, hc, hencode, hfile⟩ := line_of_transmission h
  refine ⟨s, hs, ?_⟩
  rintro f rfl
  obtain ⟨hline, e, he, hf⟩ := hfile
  rw [hline] at hencode
  exact ⟨e, c, he, hf, hc, hencode⟩

theorem writes_wrote {s : Session} (hs : w.sessions[n]? = some s) :
    (w.wrote n bytes file).writes = (n, bytes, file) :: w.writes := by
  unfold wrote
  rw [hs]
  dsimp only
  split
  · exact ((((Quiet.refl _).modifySession _).dispatchAll _).modifySession _).writes
  · exact (((Quiet.refl _).modifySession _).dispatchAll _).writes

theorem quiet_readied : Quiet w (w.readied n r).2 := by
  unfold readied
  split
  · exact ⟨rfl, rfl, rfl, rfl⟩
  · exact .refl w

theorem quiet_remembered : Quiet w (w.remembered n r) := by
  unfold remembered
  split
  · exact (Quiet.refl w).modifySession _
  · exact .refl w

/-! ## The encodings of the sessions -/

def encodings (w : World τ) : List Text := w.sessions.map (·.encoding)

theorem encoding_of_encodings {s : Session} (h : w'.encodings = w.encodings)
    (hs : w.sessions[n]? = some s) : ∃ s', w'.sessions[n]? = some s' ∧ s'.encoding = s.encoding := by
  have hn : w'.encodings[n]? = some s.encoding := by
    rw [h, encodings, List.getElem?_map, hs]
    rfl
  rwa [encodings, List.getElem?_map, Option.map_eq_some_iff] at hn

theorem encodings_modifySession {f : Session → Session} (hf : ∀ s, (f s).encoding = s.encoding) :
    (w.modifySession n f).encodings = w.encodings := by
  refine List.ext_getElem? fun m => ?_
  simp only [encodings, modifySession, List.getElem?_map, List.getElem?_modify]
  cases w.sessions[m]? with
  | none => rfl
  | some s => by_cases hm : n = m <;> simp [hm, hf]

theorem encodings_foldl {α : Type} {f : World τ → α → World τ}
    (hf : ∀ w a, (f w a).encodings = w.encodings) (l : List α) (w : World τ) :
    (l.foldl f w).encodings = w.encodings := by
  induction l generalizing w with
  | nil => rfl
  | cons a l ih => exact (ih (f w a)).trans (hf w a)

theorem encodings_signal (c : Nat) (s : Signal) : (signal n c w s).encodings = w.encodings := by
  cases s with
  | flush => exact encodings_modifySession fun s => rfl
  | summary m =>
    show (w.notify m).encodings = w.encodings
    unfold notify
    split <;> rfl

theorem encodings_dispatch (chunk : Text) : (w.dispatch n chunk).encodings = w.encodings := by
  unfold dispatch
  split
  · rfl
  split
  · rfl
  refine (encodings_foldl (fun w c => ?_) _ _).trans rfl
  unfold feed
  split
  · rfl
  · exact (encodings_foldl (fun w s => encodings_signal c s) _ _).trans rfl

theorem encodings_wrote : (w.wrote n bytes file).encodings = w.encodings := by
  have hanswered (left : Script) (chunks : List Text) :
      (((w.note (.write n bytes file)).modifySession n fun s =>
        { s with process := { s.process with script := left } }).dispatchAll n chunks).encodings =
          w.encodings :=
    (encodings_foldl (fun w chunk => encodings_dispatch chunk) _ _).trans
      (encodings_modifySession fun s => rfl)
  unfold wrote
  split
  · rfl
  dsimp only
  split
  · have hended : ∀ s : Session, s.ended.encoding = s.encoding := fun s => rfl
    exact (encodings_modifySession hended).trans (hanswered _ _)
  · exact hanswered _ _

theorem encodings_readied : (w.readied n r).2.encodings = w.encodings := by
  unfold readied
  split
  · exact encodings_modifySession fun s => rfl
  · rfl

theorem encodings_remembered : (w.remembered n r).encodings = w.encodings := by
  unfold remembered
  split
  · exact encodings_modifySession fun s => rfl
  · rfl

end World

/-- Cells, regions and buffers carry a cookie; statements and definitions do not. -/
def Selection.carriesCookie : Selection → Bool
  | cell | region .. | buffer _ => true
  | _ => false

theorem World.fragment_cookie {τ : Type} {w : World τ} {b : Buffer} {selection : Selection}
    {block : Block} {t : Text} (hc : selection.carriesCookie = true)
    (h : w.fragment b selection = .ok (block, t)) :
    ∃ t', t = Fragment.withCookie t' b.encoding := by
  cases selection with
  | cell =>
    simp only [fragment, bind, Except.bind, pure, Except.pure] at h
    split at h
    · cases h
    split at h
    · cases h
    · cases h
      exact ⟨_, rfl⟩
  | region =>
    cases h
    exact ⟨_, rfl⟩
  | buffer =>
    cases h
    exact ⟨_, rfl⟩
  | _ => cases hc

namespace Act

variable {τ : Type} {w w' : World τ} {n : Nat}

open World (Quiet)

theorem request_eq_ok {r : Request} {c : Option Nat} (h : request n r w = (.ok c, w')) :
    ∃ bytes file, w.transmission n w.settings.encoding r.keepMain r.text = .ok (bytes, file) ∧
      w'.writes = (n, bytes, file) :: w.writes ∧ w'.encodings = w.encodings := by
  rw [request_apply] at h
  cases ho : w.opened n r with
  | error e =>
    rw [ho] at h
    cases h
  | ok p =>
    obtain ⟨ts, rfl⟩ := World.opened_eq_ok ho
    rw [ho] at h
    simp only [World.transmission_readied] at h
    have hsame : ({ w with transcripts := ts } : World τ).transmission n w.settings.encoding
        r.keepMain r.text = w.transmission n w.settings.encoding r.keepMain r.text := rfl
    rw [hsame] at h
    cases ht : w.transmission n w.settings.encoding r.keepMain r.text with
    | error e =>
      rw [ht] at h
      cases h
    | ok sent =>
      obtain ⟨bytes, file⟩ := sent
      rw [ht] at h
      cases h
      obtain ⟨s, hsession, -⟩ := World.transmission_eq_ok
        ((World.transmission_readied (r := r)).trans (hsame.trans ht))
      refine ⟨bytes, file, rfl, ?_, ?_⟩
      · rw [World.quiet_remembered.writes, World.writes_wrote hsession, World.quiet_readied.writes]
        rfl
      · rw [World.encodings_remembered, World.encodings_wrote, World.encodings_readied]
        rfl

variable [Clock τ] {b : Buffer} {selection : Selection} {step : Bool} {o : Outcome}

/-- A send that succeeds writes once. -/
theorem send_eq_ok (h : send b selection step w = (.ok o, w')) :
    ∃ w₁ n bytes file, w.fragment b selection = .ok (o.block, o.text) ∧ Quiet w w₁ ∧
      w₁.transmission n w.settings.encoding selection.keepsMain o.text = .ok (bytes, file) ∧
      w'.writes = (n, bytes, file) :: w.writes ∧ w'.encodings = w₁.encodings := by
  obtain ⟨w₀, _, hw₀, h⟩ := bind_eq_ok h
  cases hw₀
  obtain ⟨⟨block, t⟩, _, hf, h⟩ := bind_eq_ok h
  rw [ofExcept_apply, Prod.mk.injEq] at hf
  obtain ⟨hf, rfl⟩ := hf
  obtain ⟨n, w₁, hn, h⟩ := bind_eq_ok h
  obtain ⟨c, w₂, hr, h⟩ := bind_eq_ok h
  obtain ⟨bytes, file, ht, hwrites, hencodings⟩ := request_eq_ok hr
  have hquiet : Quiet w w₁ := Keeps.of_eq (quietly_ensureRunning none (some b)) hn
  rw [hquiet.settings] at ht
  cases h
  refine ⟨w₁, n, bytes, file, hf, hquiet, ht, ?_, hencodings⟩
  rw [← hquiet.writes, ← hwrites]
  rfl

/-- A file is loaded by a command in the encoding of the session. The interpreter reads the text
that was sent exactly if the cookie of a cell, region or buffer names the encoding of the file, or
the text is ASCII; of any other text, exactly if it declares that encoding itself or needs no
declaration. -/
theorem load?_send (k : Codecs) {d e : Encoding} {bytes file : Bytes}
    (hb : b.encoding = d.label) (he : w.settings.encoding = e.label)
    (h : send b selection step w = (.ok o, w'))
    (hwrite : w'.writes = (n, bytes, some file) :: w.writes) :
    (∃ s c, w'.sessions[n]? = some s ∧ w.host.codecs.find? s.encoding = some c ∧
      c.encode? (Loader.command w.host.temporary e.label selection.keepsMain true ++ ['\n']) =
        some bytes) ∧
      (k.load? e.label file = some o.text ↔
        if selection.carriesCookie then d = e ∨ o.text.IsAscii else k.Declares e o.text) := by
  obtain ⟨w₁, m, bytes', file', hf, hquiet, ht, hwrites, hencodings⟩ := send_eq_ok h
  rw [hwrites] at hwrite
  cases hwrite
  obtain ⟨s, hs, hfile⟩ := World.transmission_eq_ok ht
  obtain ⟨e', c, he', hencode, hc, hcommand⟩ := hfile file rfl
  obtain ⟨s', hs', hsame⟩ := World.encoding_of_encodings hencodings hs
  rw [hquiet.host] at he' hc hcommand
  rw [he] at he' hcommand
  rw [← hsame] at hc
  obtain rfl : e.codec = e' := Option.some.inj ((Codecs.known _ e.ofName?_label).symm.trans he')
  refine ⟨⟨s', c, hs', hc, hcommand⟩, ?_⟩
  rw [Codecs.load?_eq_some e.ofName?_label hencode]
  split
  · rename_i hcookie
    obtain ⟨t, htext⟩ := World.fragment_cookie hcookie hf
    rw [hb] at htext
    rw [Codecs.declares_of_declared? (htext ▸ Cookie.declared?_withCookie d.isName_label t)
      d.ofName?_label]
  · exact Iff.rfl

/-- A statement that is not ASCII. -/
def accented (encoding : Text) : Buffer := ⟨"if x:\n    y = 'é'", 0, "a.py", none, encoding⟩

/-- An interpreter that waits for input in Latin-1. -/
def waitingLatin1 : World Float :=
  .waiting { Settings.default with encoding := "latin-1", echoInput := false }

theorem load?_send_buffer : ∃ (o : Outcome) (w' : World Float) (n : Nat) (bytes file : Bytes),
    send (accented "latin-1") (.buffer true) false waitingLatin1 = (.ok o, w') ∧
      w'.writes = (n, bytes, some file) :: waitingLatin1.writes ∧
      Codecs.basic.load? "latin-1" file = some o.text := by
  have heval : (send (accented "latin-1") (.buffer true) false waitingLatin1).1.toOption.isSome ∧
      (send (accented "latin-1") (.buffer true) false waitingLatin1).2.writes.map (·.2.2) =
        [some ((Encoding.latin1.encode? (Fragment.withCookie (accented []).text "latin-1")).getD
          [])] := by
    decide +kernel
  obtain ⟨o, ho⟩ := eq_ok_of_isSome heval.1
  obtain ⟨⟨n, bytes, _⟩, hwrite, rfl⟩ := List.map_eq_singleton_iff.1 heval.2
  have hread := load?_send .basic (d := .latin1) (e := .latin1) rfl rfl ho hwrite
  exact ⟨o, _, n, bytes, _, ho, hwrite, hread.2.2 (.inl rfl)⟩

/-- Without a cookie the file is taken for UTF-8, whatever it was written in. -/
theorem not_load?_statement : ∃ (k : Codecs) (b : Buffer) (w w' : World Float) (o : Outcome)
    (n : Nat) (bytes file : Bytes), b.encoding = Encoding.utf8.label ∧
      w.settings.encoding = Encoding.latin1.label ∧ send b .statement false w = (.ok o, w') ∧
      w'.writes = (n, bytes, some file) :: w.writes ∧
      k.load? Encoding.latin1.label file ≠ some o.text := by
  have heval : (send (accented "utf-8") .statement false waitingLatin1).1.toOption.isSome ∧
      (send (accented "utf-8") .statement false waitingLatin1).2.writes.map (·.2.2) =
        [some ((Encoding.latin1.encode? (accented []).text).getD [])] := by
    decide +kernel
  obtain ⟨o, ho⟩ := eq_ok_of_isSome heval.1
  obtain ⟨⟨n, bytes, _⟩, hwrite, rfl⟩ := List.map_eq_singleton_iff.1 heval.2
  refine ⟨.basic, accented "utf-8", _, _, o, n, bytes, _, rfl, rfl, ho, hwrite, ?_⟩
  have hnone : Codecs.basic.load? Encoding.latin1.label
      ((Encoding.latin1.encode? (accented []).text).getD []) = none := by
    decide +kernel
  rw [hnone]
  exact nofun

end Act

end ReplSend
