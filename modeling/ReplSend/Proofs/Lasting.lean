import ReplSend.Proofs.Course

/-!
# What lasts

In the course of events the settings stay, events are only added, a session keeps its name and its
transcript, what is dead stays dead, and a capture is flushed once and for all (`Course.later`).
A chunk of output changes nothing but a transcript, captures and their registration
(`output_outside`).
-/

namespace ReplSend

namespace Session

/-- The second is the first session some time later. -/
structure Later (s s' : Session) : Prop where
  name : s'.name = s.name
  transcript : s'.transcript = s.transcript
  killed : s.killed = true → s'.killed = true
  ended : s.process.ended = true → s'.process.ended = true

theorem Later.refl (s : Session) : Later s s := ⟨rfl, rfl, id, id⟩

theorem Later.trans {s s' s'' : Session} (h : Later s s') (h' : Later s' s'') : Later s s'' :=
  ⟨h'.name.trans h.name, h'.transcript.trans h.transcript, h'.killed ∘ h.killed, h'.ended ∘ h.ended⟩

theorem Minor.later {s s' : Session} (h : Minor s s') : Later s s' :=
  ⟨h.name, h.transcript, h.killed ▸ id, h.ended⟩

theorem Later.alive {s s' : Session} (h : Later s s') (hs' : s'.alive = true) : s.alive = true := by
  simp only [Session.alive, Bool.and_eq_true, Bool.not_eq_true', ← Bool.not_eq_true] at hs' ⊢
  exact ⟨fun hk => hs'.1 (h.killed hk), fun he => hs'.2 (h.ended he)⟩

/-- The session without its capture. -/
def uncaptured (s : Session) : Session := { s with capture := none, observers := [] }

theorem Later.of_uncaptured {s s' : Session} (h : s'.uncaptured = s.uncaptured) : Later s s' :=
  ⟨congrArg (·.name) h, congrArg (·.transcript) h,
    (congrArg (·.killed) h : s'.killed = s.killed) ▸ id,
    (congrArg (·.process) h : s'.process = s.process) ▸ id⟩

end Session

namespace World

variable {τ : Type} {w w' v : World τ} {n : Nat}

/-! ## Output -/

/-- All but captures, their registration and the events. -/
def outside (w : World τ) : World τ :=
  { w with captures := [], trace := [], sessions := w.sessions.map Session.uncaptured }

theorem outside_modifySession {f : Session → Session}
    (hf : ∀ s, (f s).uncaptured = s.uncaptured) : (w.modifySession n f).outside = w.outside := by
  have hsessions : (w.sessions.modify n f).map Session.uncaptured =
      w.sessions.map Session.uncaptured := by
    refine List.ext_getElem? fun m => ?_
    simp only [List.getElem?_map, List.getElem?_modify]
    cases w.sessions[m]? with
    | none => rfl
    | some s => by_cases hm : n = m <;> simp [hm, hf]
  simp only [outside, modifySession, hsessions]

theorem outside_notify (m : Message) : (w.notify m).outside = w.outside := by
  unfold notify
  split <;> rfl

theorem outside_signal (c : Nat) (s : Signal) : (signal n c w s).outside = w.outside := by
  cases s with
  | flush => exact outside_modifySession fun _ => rfl
  | summary m => exact outside_notify m

theorem outside_feed (c : Nat) (chunk : Text) : (w.feed n c chunk).outside = w.outside := by
  unfold feed
  split
  · rfl
  · exact List.foldlRecOn (motive := fun v : World τ => v.outside = w.outside) _ _ rfl
      fun v hv s _ => (outside_signal _ s).trans hv

/-- Nobody listens to the process: its session is killed, or there is none. -/
def Deaf (w : World τ) (n : Nat) : Prop := ∀ s, w.sessions[n]? = some s → s.killed = true

theorem deaf_or_open (w : World τ) (n : Nat) :
    w.Deaf n ∨ ∃ s, w.sessions[n]? = some s ∧ s.killed = false := by
  cases hs : w.sessions[n]? with
  | none => exact .inl fun s h => nomatch hs.symm.trans h
  | some s =>
    cases hk : s.killed with
    | false => exact .inr ⟨s, rfl, hk⟩
    | true => exact .inl fun s' h => Option.some.inj (hs.symm.trans h) ▸ hk

theorem Deaf.dispatch (h : w.Deaf n) (chunk : Text) : w.dispatch n chunk = w := by
  cases hs : w.sessions[n]? with
  | none => simp [World.dispatch, hs]
  | some s => simp [World.dispatch, hs, h s hs]

/-- The state when a chunk has reached a session, before any capture is fed. -/
def received (w : World τ) (n : Nat) (chunk : Text) : World τ :=
  match w.sessions[n]? with
  | none => w
  | some s => if s.killed then w else (w.record s.transcript chunk).note (.output n chunk)

theorem outside_dispatch (chunk : Text) :
    (w.dispatch n chunk).outside = (w.received n chunk).outside := by
  unfold dispatch received
  cases w.sessions[n]? with
  | none => rfl
  | some s =>
    dsimp only
    split
    · rfl
    · exact List.foldlRecOn (motive := fun v : World τ => v.outside = World.outside _) _ _ rfl
        fun v hv c _ => (outside_feed c chunk).trans hv

theorem received_eq (w : World τ) (n : Nat) (chunk : Text) : w.received n chunk = w ∨
    ∃ t, w.received n chunk = (w.record t chunk).note (.output n chunk) := by
  unfold received
  cases w.sessions[n]? with
  | none => exact .inl rfl
  | some s =>
    dsimp only
    cases s.killed with
    | true => exact .inl rfl
    | false => exact .inr ⟨s.transcript, rfl⟩

theorem sessions_received (chunk : Text) : (w.received n chunk).sessions = w.sessions := by
  obtain h | ⟨t, h⟩ := w.received_eq n chunk
  · rw [h]
  · rw [h]
    rfl

theorem length_sessions_dispatch (chunk : Text) :
    (w.dispatch n chunk).sessions.length = w.sessions.length := by
  have h := congrArg (fun v => v.sessions.length) (outside_dispatch (w := w) (n := n) chunk)
  simpa only [outside, List.length_map, sessions_received] using h

theorem length_transcripts_dispatch (chunk : Text) :
    (w.dispatch n chunk).transcripts.length = w.transcripts.length := by
  have h := congrArg (fun v => v.transcripts.length) (outside_dispatch (w := w) (n := n) chunk)
  refine Eq.trans h ?_
  obtain h | ⟨t, h⟩ := w.received_eq n chunk
  · rw [h]
    rfl
  · rw [h]
    exact List.length_modify ..

/-- Output changes nothing in a session but its capture. -/
theorem uncaptured_dispatch {m : Nat} {s : Session} (hs : w.sessions[m]? = some s) (chunk : Text) :
    ∃ s', (w.dispatch n chunk).sessions[m]? = some s' ∧ s'.uncaptured = s.uncaptured := by
  have h := congrArg (fun v => v.sessions[m]?) (outside_dispatch (w := w) (n := n) chunk)
  simp only [outside, sessions_received, List.getElem?_map, hs, Option.map_some] at h
  exact Option.map_eq_some_iff.1 h

/-! ## Later states -/

/-- The second is the first state some time later. -/
structure Later (w w' : World τ) : Prop where
  settings : w'.settings = w.settings
  prompt : w'.prompt = w.prompt
  trace : w.trace <:+ w'.trace
  sessions : ∀ {n : Nat} {s : Session}, w.sessions[n]? = some s →
    ∃ s', w'.sessions[n]? = some s' ∧ s.Later s'
  captures : ∀ {c : Nat} {k : Capture}, w.captures[c]? = some k →
    ∃ k', w'.captures[c]? = some k' ∧ (k.flushed = true → k'.flushed = true)

theorem Later.refl (w : World τ) : Later w w :=
  ⟨rfl, rfl, List.suffix_rfl, fun hs => ⟨_, hs, .refl _⟩, fun hk => ⟨_, hk, id⟩⟩

theorem Later.trans (h : Later w w') (h' : Later w' v) : Later w v where
  settings := h'.settings.trans h.settings
  prompt := h'.prompt.trans h.prompt
  trace := h.trace.trans h'.trace
  sessions hs := by
    obtain ⟨s', hs', hl⟩ := h.sessions hs
    obtain ⟨s'', hs'', hl'⟩ := h'.sessions hs'
    exact ⟨s'', hs'', hl.trans hl'⟩
  captures hk := by
    obtain ⟨k', hk', hf⟩ := h.captures hk
    obtain ⟨k'', hk'', hf'⟩ := h'.captures hk'
    exact ⟨k'', hk'', hf' ∘ hf⟩

theorem Later.foldl {α : Type} {f : World τ → α → World τ} (h : Later v w)
    (hf : ∀ w a, Later w (f w a)) (l : List α) : Later v (l.foldl f w) :=
  List.foldlRecOn (motive := Later v) l f h fun w hw a _ => hw.trans (hf w a)

/-- A change that leaves sessions and captures alone. -/
theorem Later.of_eq (hsettings : w'.settings = w.settings) (hprompt : w'.prompt = w.prompt)
    (htrace : w.trace <:+ w'.trace) (hsessions : w'.sessions = w.sessions)
    (hcaptures : w'.captures = w.captures) : Later w w' :=
  ⟨hsettings, hprompt, htrace, fun hs => ⟨_, hsessions ▸ hs, .refl _⟩,
    fun hk => ⟨_, hcaptures ▸ hk, id⟩⟩

theorem later_note (e : Event) : Later w (w.note e) :=
  .of_eq rfl rfl (List.suffix_cons _ _) rfl rfl

theorem later_record (transcript : Nat) (chunk : Text) : Later w (w.record transcript chunk) :=
  .of_eq rfl rfl List.suffix_rfl rfl rfl

theorem getElem?_modifySession {f : Session → Session} {m : Nat} {s : Session}
    (hs : w.sessions[m]? = some s) :
    (w.modifySession n f).sessions[m]? = some (if n = m then f s else s) := by
  simp only [modifySession, List.getElem?_modify, hs]
  split <;> rfl

theorem later_modifySession {f : Session → Session}
    (hf : ∀ s, w.sessions[n]? = some s → s.Later (f s)) : Later w (w.modifySession n f) := by
  refine ⟨rfl, rfl, List.suffix_rfl, fun {m s} hs => ⟨_, getElem?_modifySession hs, ?_⟩,
    fun hk => ⟨_, hk, id⟩⟩
  split
  · rename_i hm
    exact hf s (hm ▸ hs)
  · exact .refl s

theorem later_release (c : Nat) : Later w (w.release n c) :=
  later_modifySession fun _ _ => .of_uncaptured rfl

theorem later_notify (m : Message) : Later w (w.notify m) := by
  unfold notify
  split
  · exact later_note _
  · exact later_note _

theorem later_signal (c : Nat) (s : Signal) : Later w (signal n c w s) := by
  cases s with
  | flush => exact later_release c
  | summary m => exact later_notify m

/-- A capture that is flushed is not fed any more. -/
theorem flushed_feed {boundary : Text → Option Nat} {k : Capture} {chunk : Text}
    (h : k.flushed = true) : (k.feed boundary chunk).1.flushed = true := by
  simp [Capture.feed, h]

theorem later_feed (c : Nat) (chunk : Text) : Later w (w.feed n c chunk) := by
  unfold feed
  split
  · exact .refl w
  rename_i k hk
  have hset : Later w { w with captures := w.captures.set c (k.feed w.boundary chunk).1 } := by
    refine ⟨rfl, rfl, List.suffix_rfl, fun hs => ⟨_, hs, .refl _⟩, fun {d k'} hk' => ?_⟩
    by_cases hd : c = d
    · subst hd
      obtain rfl := Option.some.inj (hk.symm.trans hk')
      have hlt := (List.getElem?_eq_some_iff.1 hk).1
      exact ⟨_, List.getElem?_set_self hlt, flushed_feed⟩
    · exact ⟨k', by rwa [List.getElem?_set_ne hd], id⟩
  exact hset.foldl (fun _ s => later_signal c s) _

theorem later_dispatch (chunk : Text) : Later w (w.dispatch n chunk) := by
  unfold dispatch
  split
  · exact .refl w
  split
  · exact .refl w
  · exact ((later_record _ _).trans (later_note _)).foldl (fun _ c => later_feed c chunk) _

theorem later_isReady : Later w (w.isReady n).2 := by
  rw [isReady_snd]
  exact later_modifySession fun s _ => ⟨rfl, rfl, id, id⟩

/-! ### A new session -/

/-- All that a start changes: transcripts, records, sessions and the table. -/
theorem addSession_eq (w : World τ) (target : Text) (script : Script) : ∃ ts,
    w.addSession target script = { w with
      transcripts := ts
      records := (w.transcriptFor target).2.records
      sessions := w.sessions ++
        [.start target script (w.transcriptFor target).1 w.settings.encoding]
      table := w.table.put target w.sessions.length } := by
  unfold addSession transcriptFor
  cases w.records.get? target with
  | none => dsimp only; split <;> exact ⟨_, rfl⟩
  | some t => dsimp only; split <;> exact ⟨_, rfl⟩

theorem sessions_addSession {target : Text} {script : Script} :
    (w.addSession target script).sessions =
      w.sessions ++ [.start target script (w.transcriptFor target).1 w.settings.encoding] := by
  obtain ⟨ts, h⟩ := w.addSession_eq target script
  rw [h]

theorem table_addSession {target : Text} {script : Script} :
    (w.addSession target script).table = w.table.put target w.sessions.length := by
  obtain ⟨ts, h⟩ := w.addSession_eq target script
  rw [h]

theorem records_addSession {target : Text} {script : Script} :
    (w.addSession target script).records = (w.transcriptFor target).2.records := by
  obtain ⟨ts, h⟩ := w.addSession_eq target script
  rw [h]

/-- The sessions after a start are those before and the new one. -/
theorem getElem?_addSession {target : Text} {script : Script} {s : Session}
    (h : (w.addSession target script).sessions[n]? = some s) :
    w.sessions[n]? = some s ∨ (n = w.sessions.length ∧
      s = .start target script (w.transcriptFor target).1 w.settings.encoding) := by
  rw [sessions_addSession] at h
  rcases Nat.lt_trichotomy n w.sessions.length with hn | rfl | hn
  · rw [List.getElem?_append_left hn] at h
    exact .inl h
  · rw [List.getElem?_concat_length] at h
    exact .inr ⟨rfl, (Option.some.inj h).symm⟩
  · rw [List.getElem?_eq_none (by simp; omega)] at h
    cases h

theorem captures_addSession {target : Text} {script : Script} :
    (w.addSession target script).captures = w.captures := by
  obtain ⟨ts, h⟩ := w.addSession_eq target script
  rw [h]

theorem later_addSession (target : Text) (script : Script) :
    Later w (w.addSession target script) := by
  obtain ⟨ts, h⟩ := w.addSession_eq target script
  rw [h]
  exact ⟨rfl, rfl, List.suffix_rfl, fun {n s} hs => ⟨s,
    (List.getElem?_append_left (List.getElem?_eq_some_iff.1 hs).1).trans hs, .refl s⟩,
    fun hk => ⟨_, hk, id⟩⟩

theorem later_installCapture : Later w (w.installCapture n).2 := by
  have hnew : Later w { w with captures := w.captures ++ [.empty] } :=
    ⟨rfl, rfl, List.suffix_rfl, fun hs => ⟨_, hs, .refl _⟩, fun {c k} hk =>
      ⟨k, (List.getElem?_append_left (List.getElem?_eq_some_iff.1 hk).1).trans hk, id⟩⟩
  exact hnew.trans (later_modifySession fun _ _ => .of_uncaptured rfl)

theorem Change.later (h : Change w w') : Later w w' := by
  cases h with
  | note e => exact later_note e
  | arrange clock scripts sources sent => exact .of_eq rfl rfl List.suffix_rfl rfl rfl
  | touch n f hf => exact later_modifySession fun s hs => (hf s hs).later
  | look n => exact later_isReady
  | output n chunk => exact later_dispatch chunk
  | echo transcript shown => exact later_record _ _
  | start target script => exact later_addSession target script
  | drop target => exact .of_eq rfl rfl List.suffix_rfl rfl rfl
  | forget target => exact .of_eq rfl rfl List.suffix_rfl rfl rfl
  | kill n => exact later_modifySession fun s _ => ⟨rfl, rfl, fun _ => rfl, id⟩
  | capture n => exact later_installCapture
  | release n c => exact later_release c

theorem Course.later (h : Course w w') : Later w w' := by
  induction h with
  | refl => exact .refl w
  | tail _ hstep ih => exact ih.trans hstep.later

/-- When no session is added, every later session was there before. -/
theorem Later.of_getElem? (h : Later w w') (hlength : w'.sessions.length = w.sessions.length)
    {s' : Session} (hs' : w'.sessions[n]? = some s') :
    ∃ s, w.sessions[n]? = some s ∧ s.Later s' := by
  have hlt := (List.getElem?_eq_some_iff.1 hs').1
  obtain ⟨s'', hs'', hl⟩ := h.sessions (List.getElem?_eq_getElem (hlength ▸ hlt))
  obtain rfl := Option.some.inj (hs'.symm.trans hs'')
  exact ⟨_, List.getElem?_eq_getElem (hlength ▸ hlt), hl⟩

/-- The events after the first state, up to the second. -/
def since (w w' : World τ) : List Event := w'.trace.take (w'.trace.length - w.trace.length)

theorem since_eq {events : List Event} (h : w'.trace = events ++ w.trace) :
    since w w' = events := by
  simp [since, h]

theorem Later.trace_eq (h : Later w w') : w'.trace = since w w' ++ w.trace := by
  obtain ⟨events, hevents⟩ := h.trace
  rw [since_eq hevents.symm, hevents]

theorem mem_since_dispatch {s : Session} (hs : w.sessions[n]? = some s) (hk : s.killed = false)
    (chunk : Text) : .output n chunk ∈ since w (w.dispatch n chunk) := by
  have hfed : Later ((w.record s.transcript chunk).note (.output n chunk))
      (w.dispatch n chunk) := by
    simp only [dispatch, hs, hk, Bool.false_eq_true, if_false]
    exact (Later.refl _).foldl (fun _ c => later_feed c chunk) _
  obtain ⟨events, hevents⟩ := hfed.trace
  have hsince : since w (w.dispatch n chunk) = events ++ [.output n chunk] := by
    refine since_eq ?_
    rw [← hevents, List.append_assoc]
    rfl
  rw [hsince]
  exact List.mem_append_right _ (List.mem_singleton_self _)

theorem Later.since_trans (h : Later w w') (h' : Later w' v) :
    since w v = since w' v ++ since w w' := by
  refine since_eq ?_
  rw [List.append_assoc, ← h.trace_eq, ← h'.trace_eq]

end World

end ReplSend
