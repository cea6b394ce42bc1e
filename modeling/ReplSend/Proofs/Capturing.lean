import ReplSend.Proofs.Lasting

/-!
# Captures and their sessions

At every point of the course of events a session has no capture and feeds none, or it has one that
is not flushed, and feeds just this one (`Registered`). So a chunk of output does one of four things
(`Registered.reception`), and each capturing request leads to one message at most, which is passed
on when its capture is registered no more (`orderly_of_course`).
-/

namespace ReplSend

/-- Nothing is captured of the session. -/
def Session.Idle (s : Session) : Prop := s.capture = none ∧ s.observers = []

namespace World

variable {τ : Type} {w w' : World τ} {n c : Nat} {s : Session} {k : Capture} {chunk : Text}

/-! ## What a chunk of output leads to -/

/-- The message, if any, that a capture is summed up in when it is fed with a chunk. -/
def toldBy (w : World τ) (chunk : Text) (c : Nat) : List (Nat × Message) :=
  match w.captures[c]? with
  | none => []
  | some k => (k.feed w.boundary chunk).2.filterMap fun
    | .flush => none
    | .summary m => some (c, m)

/-- The messages that are passed on when a chunk of output reaches a session, each with the capture
that it sums up. -/
def told (w : World τ) (n : Nat) (chunk : Text) : List (Nat × Message) :=
  match w.sessions[n]? with
  | none => []
  | some s => if s.killed then [] else s.observers.flatMap (w.toldBy chunk)

theorem Deaf.told (h : w.Deaf n) (chunk : Text) : w.told n chunk = [] := by
  cases hs : w.sessions[n]? with
  | none => simp [World.told, hs]
  | some s => simp [World.told, hs, h s hs]

theorem dispatch_of_open (hs : w.sessions[n]? = some s) (hk : s.killed = false) :
    w.dispatch n chunk =
      s.observers.foldl (fun v c => v.feed n c chunk) (w.received n chunk) := by
  simp [dispatch, received, hs, hk]

theorem told_of_open (hs : w.sessions[n]? = some s) (hk : s.killed = false) :
    w.told n chunk = s.observers.flatMap (w.toldBy chunk) := by
  simp [told, hs, hk]

/-- Receiving a chunk does not touch captures. -/
theorem captures_received : (w.received n chunk).captures = w.captures := by
  obtain h | ⟨t, h⟩ := w.received_eq n chunk
  · rw [h]
  · rw [h]
    rfl

theorem boundary_received : (w.received n chunk).boundary = w.boundary := by
  obtain h | ⟨t, h⟩ := w.received_eq n chunk
  · rw [h]
  · rw [h]
    rfl

theorem feed_collected (hc : w.captures[c]? = some k) (hf : k.flushed = false)
    (hb : w.boundary (k.text ++ chunk) = none) :
    w.feed n c chunk = { w with captures := w.captures.set c ⟨k.text ++ chunk, false⟩ } ∧
      w.toldBy chunk c = [] := by
  simp [feed, toldBy, Capture.feed, hc, hf, hb]

theorem feed_flushed {offset : Nat} (hc : w.captures[c]? = some k) (hf : k.flushed = false)
    (hb : w.boundary (k.text ++ chunk) = some offset) :
    w.feed n c chunk = (({ w with captures := w.captures.set c ⟨[], true⟩ } : World τ).release n
        c).notify (.ofOutput ((k.text ++ chunk).take offset)) ∧
      w.toldBy chunk c = [(c, .ofOutput ((k.text ++ chunk).take offset))] := by
  simp [feed, toldBy, Capture.feed, hc, hf, hb, signal]

/-! ## Registration -/

/-- The capture is registered with the session, alone, and waits for its end. -/
structure Pending (w : World τ) (s : Session) (c : Nat) : Prop where
  capture : s.capture = some c
  observers : s.observers = [c]
  open_ : ∃ k, w.captures[c]? = some k ∧ k.flushed = false

structure Registered (w : World τ) : Prop where
  session : ∀ {n : Nat} {s : Session}, w.sessions[n]? = some s → s.Idle ∨ ∃ c, w.Pending s c
  apart : ∀ {m n : Nat} {s s' : Session} {c : Nat}, w.sessions[m]? = some s →
    w.sessions[n]? = some s' → s.capture = some c → s'.capture = some c → m = n

/-- The state when a chunk has ended a capture, before the message about it. -/
def closed (w : World τ) (n : Nat) (chunk : Text) (c : Nat) : World τ :=
  ({ w.received n chunk with captures := w.captures.set c ⟨[], true⟩ } : World τ).release n c

/-- The four things that a chunk of output can do. -/
inductive Reception (w : World τ) (n : Nat) (chunk : Text) (v : World τ)
    (calls : List (Nat × Message)) : Prop
  | ignored (hs : ∀ s, w.sessions[n]? = some s → s.killed = true) (hv : v = w) (hc : calls = [])
  | unobserved (s : Session) (hs : w.sessions[n]? = some s) (hk : s.killed = false) (hi : s.Idle)
      (hv : v = w.received n chunk) (hc : calls = [])
  | collected (s : Session) (c : Nat) (k : Capture) (hs : w.sessions[n]? = some s)
      (hk : s.killed = false) (hp : w.Pending s c) (hc : w.captures[c]? = some k)
      (hb : w.boundary (k.text ++ chunk) = none)
      (hv : v = { w.received n chunk with
        captures := w.captures.set c ⟨k.text ++ chunk, false⟩ }) (hc : calls = [])
  | flushed (s : Session) (c : Nat) (k : Capture) (offset : Nat) (hs : w.sessions[n]? = some s)
      (hk : s.killed = false) (hp : w.Pending s c) (hc : w.captures[c]? = some k)
      (hb : w.boundary (k.text ++ chunk) = some offset)
      (hv : v = (w.closed n chunk c).notify (.ofOutput ((k.text ++ chunk).take offset)))
      (hc : calls = [(c, .ofOutput ((k.text ++ chunk).take offset))])

theorem Registered.reception (h : Registered w) (n : Nat) (chunk : Text) :
    Reception w n chunk (w.dispatch n chunk) (w.told n chunk) := by
  rcases w.deaf_or_open n with hdeaf | ⟨s, hs, hk⟩
  · exact .ignored hdeaf (hdeaf.dispatch chunk) (hdeaf.told chunk)
  rw [dispatch_of_open hs hk, told_of_open hs hk]
  rcases h.session hs with hi | ⟨c, hp⟩
  · rw [hi.2]
    exact .unobserved s hs hk hi rfl rfl
  obtain ⟨k, hc, hf⟩ := hp.open_
  rw [hp.observers, List.foldl_cons, List.foldl_nil, List.flatMap_singleton]
  have hreceived : (w.received n chunk).captures[c]? = some k := by rw [captures_received, hc]
  cases hb : w.boundary (k.text ++ chunk) with
  | none =>
    refine .collected s c k hs hk hp hc hb ?_ (feed_collected (n := n) hc hf hb).2
    rw [(feed_collected hreceived hf (by rw [boundary_received, hb])).1, captures_received]
  | some offset =>
    refine .flushed s c k offset hs hk hp hc hb ?_ (feed_flushed (n := n) hc hf hb).2
    rw [(feed_flushed hreceived hf (by rw [boundary_received, hb])).1, captures_received, closed]

/-! ## Every change keeps captures registered -/

/-- It is enough that no session gets a capture, and that none is flushed under a session. -/
theorem Registered.of_parts (h : Registered w)
    (hs : ∀ (n : Nat) (s' : Session), w'.sessions[n]? = some s' → s'.Idle ∨
      ∃ s : Session, w.sessions[n]? = some s ∧ s'.capture = s.capture ∧ s'.observers = s.observers)
    (hk : ∀ (n : Nat) (s' : Session) (c : Nat) (k : Capture), w'.sessions[n]? = some s' →
      s'.capture = some c → w.captures[c]? = some k → k.flushed = false →
      ∃ k' : Capture, w'.captures[c]? = some k' ∧ k'.flushed = false) : Registered w' where
  session {n s'} hs' := by
    rcases hs n s' hs' with hi | ⟨s, hn, hcapture, hobservers⟩
    · exact .inl hi
    rcases h.session hn with hi | ⟨c, hp⟩
    · exact .inl ⟨hcapture.trans hi.1, hobservers.trans hi.2⟩
    · obtain ⟨k, hc, hf⟩ := hp.open_
      have hc' := hcapture.trans hp.capture
      exact .inr ⟨c, hc', hobservers.trans hp.observers, hk n s' c k hs' hc' hc hf⟩
  apart {m n s s' c} hm hn hc hc' := by
    rcases hs m s hm with hi | ⟨t, ht, hcapture, -⟩
    · cases hi.1.symm.trans hc
    rcases hs n s' hn with hi | ⟨t', ht', hcapture', -⟩
    · cases hi.1.symm.trans hc'
    exact h.apart ht ht' (hcapture ▸ hc) (hcapture' ▸ hc')

theorem Registered.congr (h : Registered w) (hs : w'.sessions = w.sessions)
    (hk : w'.captures = w.captures) : Registered w' :=
  h.of_parts (fun n s' hs' => .inr ⟨s', hs ▸ hs', rfl, rfl⟩)
    fun _ _ c k _ _ hc hf => ⟨k, by rw [hk, hc], hf⟩

theorem of_getElem?_modifySession {f : Session → Session} {m : Nat} {s' : Session}
    (h : (w.modifySession n f).sessions[m]? = some s') :
    ∃ s, w.sessions[m]? = some s ∧ s' = if n = m then f s else s := by
  cases hs : w.sessions[m]? with
  | none => simp [modifySession, List.getElem?_modify, hs] at h
  | some s => exact ⟨s, rfl, Option.some.inj (h.symm.trans (getElem?_modifySession hs))⟩

theorem Registered.modifySession {f : Session → Session} (h : Registered w)
    (hf : ∀ s, w.sessions[n]? = some s → (f s).Idle ∨
      ((f s).capture = s.capture ∧ (f s).observers = s.observers)) :
    Registered (w.modifySession n f) := by
  refine h.of_parts (fun m s' hs' => ?_) fun _ _ c k _ _ hc hf => ⟨k, hc, hf⟩
  obtain ⟨s, hs, rfl⟩ := of_getElem?_modifySession hs'
  split
  · rename_i hm
    exact (hf s (hm ▸ hs)).imp_right fun hsame => ⟨s, hs, hsame⟩
  · exact .inr ⟨s, hs, rfl, rfl⟩

/-- A session without its capture has none left. -/
theorem Pending.idle_release (h : w.Pending s c) : (s.release c).Idle := by
  simp [Session.Idle, Session.release, h.capture, h.observers]

theorem Registered.release (h : Registered w) (n c : Nat) : Registered (w.release n c) := by
  refine h.modifySession fun s hs => ?_
  rcases h.session hs with hi | ⟨d, hp⟩
  · refine .inr ⟨?_, ?_⟩ <;> simp [Session.release, hi.1, hi.2]
  by_cases hd : c = d
  · exact .inl (hd ▸ hp.idle_release)
  · refine .inr ⟨?_, ?_⟩
    · simp [Session.release, hp.capture, Ne.symm hd]
    · simp [Session.release, hp.observers, Ne.symm hd]

theorem sessions_notify (m : Message) : (w.notify m).sessions = w.sessions := by
  unfold notify
  split <;> rfl

theorem captures_notify (m : Message) : (w.notify m).captures = w.captures := by
  unfold notify
  split <;> rfl

/-- When a capture is over, the other sessions wait for other captures. -/
theorem Registered.getElem?_closed (h : Registered w) (hs : w.sessions[n]? = some s)
    (hp : w.Pending s c) {m : Nat} {s' : Session}
    (hs' : (w.closed n chunk c).sessions[m]? = some s') :
    s'.Idle ∨ (w.sessions[m]? = some s' ∧ s'.capture ≠ some c) := by
  obtain ⟨t, ht, rfl⟩ := of_getElem?_modifySession hs'
  rw [show ({ w.received n chunk with captures := _ } : World τ).sessions = w.sessions from
    sessions_received chunk] at ht
  split
  · rename_i hm
    obtain rfl := Option.some.inj (hs.symm.trans (hm ▸ ht))
    exact .inl hp.idle_release
  · rename_i hm
    exact .inr ⟨ht, fun hcapture => hm (h.apart hs ht hp.capture hcapture)⟩

theorem Registered.dispatch (h : Registered w) (n : Nat) (chunk : Text) :
    Registered (w.dispatch n chunk) := by
  have hset : ∀ {c c' : Nat} {k k' : Capture}, c ≠ c' → w.captures[c']? = some k →
      (w.captures.set c k')[c']? = some k := fun hne hc => by rwa [List.getElem?_set_ne hne]
  cases h.reception n chunk with
  | ignored hs hv => rwa [hv]
  | unobserved s hs hk hi hv =>
    rw [hv]
    exact h.congr (sessions_received chunk) captures_received
  | collected s c k hs hk hp hc hb hv =>
    rw [hv]
    refine h.of_parts (fun m s' hs' => .inr ⟨s', sessions_received (w := w) chunk ▸ hs', rfl, rfl⟩)
      fun m s' c' k' hs' hc' hk' hf' => ?_
    by_cases hcc : c = c'
    · subst hcc
      exact ⟨_, List.getElem?_set_self (List.getElem?_eq_some_iff.1 hc).1, rfl⟩
    · exact ⟨k', hset hcc hk', hf'⟩
  | flushed s c k offset hs hk hp hc hb hv =>
    rw [hv]
    refine h.of_parts (fun m s' hs' => ?_) fun m s' c' k' hs' hc' hk' hf' => ⟨k', ?_, hf'⟩
    · rw [sessions_notify] at hs'
      exact (h.getElem?_closed hs hp hs').imp_right fun ht => ⟨s', ht.1, rfl, rfl⟩
    rw [captures_notify]
    rw [sessions_notify] at hs'
    refine hset (fun hcc => ?_) hk'
    rcases h.getElem?_closed hs hp hs' with hi | ⟨-, hne⟩
    · cases hi.1.symm.trans hc'
    · exact hne (hcc ▸ hc')

theorem Registered.addSession (h : Registered w) (target : Text) (script : Script) :
    Registered (w.addSession target script) := by
  refine h.of_parts (fun m s' hs' => ?_) fun _ _ c k _ _ hc hf => ⟨k, ?_, hf⟩
  · rcases getElem?_addSession hs' with hs | ⟨-, rfl⟩
    · exact .inr ⟨s', hs, rfl, rfl⟩
    · exact .inl ⟨rfl, rfl⟩
  · rwa [captures_addSession]

theorem Registered.capture_lt (h : Registered w) (hs : w.sessions[n]? = some s)
    (hc : s.capture = some c) : c < w.captures.length := by
  rcases h.session hs with hi | ⟨d, hp⟩
  · cases hi.1.symm.trans hc
  · obtain ⟨k, hk, -⟩ := hp.open_
    obtain rfl := Option.some.inj (hc.symm.trans hp.capture)
    exact (List.getElem?_eq_some_iff.1 hk).1

theorem Registered.installCapture (h : Registered w)
    (hfree : (w.sessions[n]?).any (·.capture.isSome) = false) :
    Registered (w.installCapture n).2 := by
  have hnew : (w.captures ++ [Capture.empty])[w.captures.length]? = some .empty :=
    List.getElem?_concat_length
  -- Only session `n` gets a capture, and one that no other session has.
  have hsessions : ∀ (m : Nat) (s' : Session), (w.installCapture n).2.sessions[m]? = some s' →
      (m = n ∧ s'.capture = some w.captures.length ∧ s'.observers = [w.captures.length]) ∨
        w.sessions[m]? = some s' := by
    intro m s' hs'
    obtain ⟨s, hs, rfl⟩ := of_getElem?_modifySession hs'
    split
    · rename_i hm
      subst hm
      have hnone : s.capture = none := by
        rw [show w.sessions[n]? = some s from hs] at hfree
        simpa using hfree
      rcases h.session hs with hi | ⟨d, hp⟩
      · exact .inl ⟨rfl, rfl, by simp [hi.2]⟩
      · cases hnone.symm.trans hp.capture
    · exact .inr hs
  refine ⟨fun {m s'} hs' => ?_, fun {l m s s' c} hs hs' hc hc' => ?_⟩
  · rcases hsessions m s' hs' with ⟨-, hcapture, hobservers⟩ | hs
    · exact .inr ⟨_, hcapture, hobservers, _, hnew, rfl⟩
    · refine (h.session hs).imp_right fun ⟨c, hp⟩ => ⟨c, hp.capture, hp.observers, ?_⟩
      obtain ⟨k, hk, hf⟩ := hp.open_
      exact ⟨k, (List.getElem?_append_left (h.capture_lt hs hp.capture)).trans hk, hf⟩
  · rcases hsessions l s hs with ⟨hl, hcapture, -⟩ | hs <;>
      rcases hsessions m s' hs' with ⟨hm, hcapture', -⟩ | hs'
    · exact hl.trans hm.symm
    · have := h.capture_lt hs' hc'
      rw [hcapture, Option.some.injEq] at hc
      omega
    · have := h.capture_lt hs hc
      rw [hcapture', Option.some.injEq] at hc'
      omega
    · exact h.apart hs hs' hc hc'

theorem Change.registered (h : Change w w') (hr : Registered w) : Registered w' := by
  cases h with
  | note e => exact hr.congr rfl rfl
  | arrange clock scripts sources sent => exact hr.congr rfl rfl
  | touch n f hf =>
    exact hr.modifySession fun s hs => .inr ⟨(hf s hs).capture, (hf s hs).observers⟩
  | look n =>
    rw [isReady_snd]
    exact hr.modifySession fun _ _ => .inr ⟨rfl, rfl⟩
  | output n chunk => exact hr.dispatch n chunk
  | echo transcript shown => exact hr.congr rfl rfl
  | start target script => exact hr.addSession target script
  | drop target => exact hr.congr rfl rfl
  | forget target => exact hr.congr rfl rfl
  | kill n => exact hr.modifySession fun _ _ => .inl ⟨rfl, rfl⟩
  | capture n hl hfree => exact hr.installCapture hfree
  | release n c => exact hr.release n c

theorem Course.registered (h : Course w w') (hr : Registered w) : Registered w' :=
  h.preserves Change.registered hr

/-! ## Messages -/

end World

/-- The event is a message that is passed on by itself. -/
def Event.isNotify : Event → Bool
  | notify _ => true
  | _ => false

namespace World

variable {τ : Type} {w w' : World τ} {n c : Nat} {s : Session} {k : Capture} {chunk : Text}

/-- As many messages were passed on as captures are flushed. -/
def Counted (w : World τ) : Prop :=
  w.notice = .event → w.trace.countP Event.isNotify = w.captures.countP (·.flushed)

theorem notice_received : (w.received n chunk).notice = w.notice := by
  obtain h | ⟨t, h⟩ := w.received_eq n chunk
  · rw [h]
  · rw [h]
    rfl

theorem notice_dispatch : (w.dispatch n chunk).notice = w.notice :=
  (congrArg World.notice (outside_dispatch (w := w) (n := n) chunk)).trans notice_received

theorem trace_received : (w.received n chunk).trace = w.trace ∨
    (w.received n chunk).trace = .output n chunk :: w.trace := by
  obtain h | ⟨t, h⟩ := w.received_eq n chunk
  · exact .inl (by rw [h])
  · exact .inr (by rw [h]; rfl)

theorem countP_trace_received :
    (w.received n chunk).trace.countP Event.isNotify = w.trace.countP Event.isNotify := by
  obtain h | h : (w.received n chunk).trace = w.trace ∨ _ := trace_received
  · rw [h]
  · rw [h]
    exact List.countP_cons_of_neg (by simp [Event.isNotify])

theorem Counted.dispatch (h : Counted w) (hr : Registered w) (n : Nat) (chunk : Text) :
    Counted (w.dispatch n chunk) := by
  intro hnotice
  rw [notice_dispatch] at hnotice
  have hcount := h hnotice
  cases hr.reception n chunk with
  | ignored hs hv => rw [hv, hcount]
  | unobserved s hs hk hi hv => rw [hv, countP_trace_received, captures_received, hcount]
  | collected s c k hs hk hp hc hb hv =>
    obtain ⟨hlt, rfl⟩ := List.getElem?_eq_some_iff.1 hc
    obtain ⟨k, hk', hf⟩ := hp.open_
    obtain rfl := Option.some.inj (hc.symm.trans hk')
    rw [hv]
    show (w.received n chunk).trace.countP _ = (w.captures.set c _).countP _
    rw [countP_trace_received, hcount, List.countP_set hlt, hf]
    simp
  | flushed s c k offset hs hk hp hc hb hv =>
    obtain ⟨hlt, rfl⟩ := List.getElem?_eq_some_iff.1 hc
    obtain ⟨k, hk', hf⟩ := hp.open_
    obtain rfl := Option.some.inj (hc.symm.trans hk')
    rw [hv, captures_notify]
    have hclosed : (w.closed n chunk c).notice = .event := notice_received.trans hnotice
    simp only [notify, hclosed]
    show List.countP _ (_ :: (w.received n chunk).trace) = (w.captures.set c _).countP _
    rw [List.countP_cons_of_pos rfl, countP_trace_received, hcount, List.countP_set hlt,
      hf]
    simp

theorem Change.counted (h : Change w w') (hr : Registered w) (hc : Counted w) : Counted w' := by
  cases h with
  | note e he =>
    have hplain : e.isNotify = false := by cases e <;> simp_all [Event.isPlain, Event.isNotify]
    exact fun hn => (List.countP_cons_of_neg (by simp [hplain])).trans (hc hn)
  | look n =>
    rw [isReady_snd]
    exact hc
  | output n chunk => exact hc.dispatch hr n chunk
  | start target script =>
    obtain ⟨ts, h⟩ := w.addSession_eq target script
    rw [h]
    exact hc
  | capture n =>
    intro hn
    show w.trace.countP _ = (w.captures ++ [Capture.empty]).countP _
    rw [List.countP_append, hc hn]
    rfl
  | _ => exact hc

/-- What a chunk of output leads to: a state in which it is recorded and, if it ends a capture, the
capture is over, and then the message. -/
structure Summary (w : World τ) (n : Nat) (chunk : Text) (u : World τ) : Prop where
  eq : w.dispatch n chunk = (w.told n chunk).foldl (fun u p => u.notify p.2) u
  trace : u.trace = w.trace ∨ u.trace = .output n chunk :: w.trace
  atMostOne : (w.told n chunk).length ≤ 1
  pending : ∀ p ∈ w.told n chunk, ∃ s, w.sessions[n]? = some s ∧ w.Pending s p.1
  done : ∀ p ∈ w.told n chunk, u.isFlushed p.1 = true ∧ ∃ s, u.sessions[n]? = some s ∧ s.Idle

theorem Registered.summary (h : Registered w) (n : Nat) (chunk : Text) :
    ∃ u, Summary w n chunk u := by
  have hnone : ∀ u, w.dispatch n chunk = u → w.told n chunk = [] →
      (u.trace = w.trace ∨ u.trace = .output n chunk :: w.trace) → Summary w n chunk u :=
    fun u hu ht htrace => by
      refine ⟨?_, htrace, ?_, ?_, ?_⟩ <;> simp [ht, hu]
  cases h.reception n chunk with
  | ignored hs hv hc => exact ⟨w, hnone w hv hc (.inl rfl)⟩
  | unobserved s hs hk hi hv hc => exact ⟨_, hnone _ hv hc trace_received⟩
  | collected s c k hs hk hp hc hb hv ht => exact ⟨_, hnone _ hv ht trace_received⟩
  | flushed s c k offset hs hk hp hc hb hv ht =>
    have hlt := (List.getElem?_eq_some_iff.1 hc).1
    have hover : (w.closed n chunk c).isFlushed c = true := by
      simp [isFlushed, closed, World.release, World.modifySession, hlt]
    have hidle : (w.closed n chunk c).sessions[n]? = some (s.release c) := by
      refine (getElem?_modifySession ?_).trans (by rw [if_pos rfl])
      rw [← hs, ← sessions_received (w := w) chunk]
    refine ⟨w.closed n chunk c, ?_, trace_received, ?_, ?_, ?_⟩
    · rw [hv, ht]
      rfl
    · rw [ht]
      exact Nat.le_refl 1
    · rw [ht]
      simpa using ⟨s, hs, hp⟩
    · rw [ht]
      simpa [hover, hidle] using hp.idle_release

/-- A message is about a capture that was not flushed before and is flushed then. -/
theorem Registered.flushed_told (h : Registered w) {p : Nat × Message} (hp : p ∈ w.told n chunk) :
    (∃ k, w.captures[p.1]? = some k ∧ k.flushed = false) ∧
      ∃ k, (w.dispatch n chunk).captures[p.1]? = some k ∧ k.flushed = true := by
  have hnil : w.told n chunk ≠ [] := List.ne_nil_of_mem hp
  cases h.reception n chunk with
  | ignored hs hv hc => exact absurd hc hnil
  | unobserved s hs hk hi hv hc => exact absurd hc hnil
  | collected s c k hs hk hpend hc hb hv ht => exact absurd ht hnil
  | flushed s c k offset hs hk hpend hc hb hv ht =>
    rw [ht, List.mem_singleton] at hp
    obtain rfl := hp
    refine ⟨hpend.open_, ⟨[], true⟩, ?_, rfl⟩
    rw [hv, captures_notify]
    exact List.getElem?_set_self (List.getElem?_eq_some_iff.1 hc).1

/-- A session that is killed stays so, and ignores its process. -/
theorem Course.dispatch_of_killed (h : Course w w') (hs : w.sessions[n]? = some s)
    (hk : s.killed = true) (chunk : Text) :
    w'.dispatch n chunk = w' ∧ w'.told n chunk = [] := by
  obtain ⟨s', hs', hl⟩ := h.later.sessions hs
  have hdeaf : w'.Deaf n := fun t ht => Option.some.inj (hs'.symm.trans ht) ▸ hl.killed hk
  exact ⟨hdeaf.dispatch chunk, hdeaf.told chunk⟩

theorem killed_killSession (hs : (w.killSession n).sessions[n]? = some s) : s.killed = true := by
  cases hn : w.sessions[n]? with
  | none =>
    rw [killSession, hn] at hs
    cases hn.symm.trans hs
  | some t =>
    simp only [killSession, hn] at hs
    revert hs
    split <;> split <;> simp [modifySession, note, log, hn, Session.ended] <;> rintro rfl <;> rfl

theorem readied_eq_some {r : Request} (h : w.readied n r = (some c, w')) :
    w.capturing n r = true ∧ c = w.captures.length ∧ w' = (w.installCapture n).2 := by
  unfold readied at h
  split at h
  · rename_i hcap
    obtain ⟨hc, rfl⟩ := Prod.mk.inj h
    exact ⟨hcap, (Option.some.inj hc).symm, rfl⟩
  · cases h

/-- A request that succeeds has opened, and written. -/
theorem request_eq_ok {r : Request} {o : Option Nat} (h : Act.request n r w = (.ok o, w')) :
    ∃ v bytes file, w.opened n r = .ok (o, v) ∧ w' = (v.wrote n bytes file).remembered n r := by
  rw [Act.request_apply] at h
  rcases ho : w.opened n r with e | ⟨o', v⟩
  · rw [ho] at h
    cases h
  · rw [ho] at h
    dsimp only at h
    split at h
    · rename_i bytes file _
      obtain ⟨hc, rfl⟩ := Prod.mk.inj h
      exact ⟨v, bytes, file, by rw [Except.ok.inj hc], rfl⟩
    · cases h

theorem course_written (bytes : Bytes) (file : Option Bytes) (r : Request) :
    Course w ((w.wrote n bytes file).remembered n r) :=
  (course_wrote bytes file).trans course_remembered

/-- A capturing request opens a capture that was not there before. -/
theorem captures_request {r : Request} (h : Act.request n r w = (.ok (some c), w')) :
    w.captures[c]? = none ∧ ∃ k, w'.captures[c]? = some k := by
  obtain ⟨v, bytes, file, ho, rfl⟩ := request_eq_ok h
  obtain ⟨ts, hready⟩ := opened_eq_ok ho
  obtain ⟨-, rfl, rfl⟩ := readied_eq_some hready.symm
  refine ⟨List.getElem?_eq_none (Nat.le_refl _), ?_⟩
  obtain ⟨k, hk, -⟩ := (course_written bytes file r).later.captures
    (w := (World.installCapture _ n).2) List.getElem?_concat_length
  exact ⟨k, hk⟩

/-! ## In good order -/

structure Orderly (w : World τ) : Prop where
  /-- Every session is idle, or it has one capture, not flushed, and feeds just this one. -/
  registered : Registered w
  counted : Counted w
  summary : ∀ n chunk, ∃ u, Summary w n chunk u
  /-- Who has heard about a capture will not hear about it again. -/
  once : ∀ {n m : Nat} {chunk chunk' : Text} {p p' : Nat × Message} {w' : World τ},
    p ∈ w.told n chunk → Course (w.dispatch n chunk) w' → p' ∈ w'.told m chunk' → p'.1 ≠ p.1
  /-- Each capturing request has a capture of its own. -/
  own : ∀ {n c : Nat} {r : Request} {w' : World τ}, Act.request n r w = (.ok (some c), w') →
    w.captures[c]? = none ∧ ∃ k, w'.captures[c]? = some k
  killed : ∀ {n : Nat} {s : Session}, (w.killSession n).sessions[n]? = some s → s.killed = true
  /-- A killed session ignores its process for good. -/
  mute : ∀ {n : Nat} {s : Session} {w' : World τ}, w.sessions[n]? = some s → s.killed = true →
    Course w w' → ∀ chunk, w'.dispatch n chunk = w' ∧ w'.told n chunk = []

theorem Registered.orderly (hr : Registered w) (hc : Counted w) : Orderly w where
  registered := hr
  counted := hc
  summary := hr.summary
  once {n m chunk chunk' p p' w'} hp hw' hp' heq := by
    obtain ⟨-, k, hk, hf⟩ := hr.flushed_told hp
    obtain ⟨k', hk', hlast⟩ := hw'.later.captures hk
    obtain ⟨⟨k'', hk'', hopen⟩, -⟩ := (hw'.registered (hr.dispatch n chunk)).flushed_told hp'
    rw [heq, hk', Option.some.injEq] at hk''
    rw [← hk'', hlast hf] at hopen
    cases hopen
  own := captures_request
  killed := killed_killSession
  mute hs hk hw' chunk := hw'.dispatch_of_killed hs hk chunk

theorem Untouched.registered (h : Untouched w) : Registered w where
  session hs := by simp [h.sessions] at hs
  apart hs := by simp [h.sessions] at hs

theorem Untouched.counted (h : Untouched w) : Counted w := fun _ => by
  rw [h.trace, h.captures]
  rfl

theorem Course.orderly (h : Course w w') (hr : Registered w) (hc : Counted w) :
    Orderly w' := by
  have hboth : Registered w' ∧ Counted w' :=
    h.preserves (P := fun v => Registered v ∧ Counted v)
      (fun hstep hv => ⟨hstep.registered hv.1, hstep.counted hv.1 hv.2⟩) ⟨hr, hc⟩
  exact hboth.1.orderly hboth.2

/-- After every history, and at every later point in the course of events, captures are in good
order. -/
theorem orderly_after [Clock τ] {settings : Settings τ} {start : τ} {host : Host}
    {scripts : List Script} {notice : Notice} {projectRoot : Option (Option Text)} {w₀ : World τ}
    (h₀ : initial? settings start host scripts notice projectRoot = .ok w₀)
    (history : List Action) (h : Course (w₀.after history) w) : Orderly w :=
  Course.orderly ((course_after w₀ history).trans h) (untouched_initial h₀).2.registered
    (untouched_initial h₀).2.counted

/-- A line is sent to a ready interpreter: its capture is pending, and the next prompt ends it. -/
theorem orderly_after_line : ∃ history : List Action,
    ((beginning.after history).sessions[0]?).any (·.capture.isSome) = true ∧
      ((beginning.after history).told 0 "2\n>>> ").length = 1 ∧
      Orderly (beginning.after history) :=
  ⟨[.getOrCreate none none, .output 0 [">>> "], .request 0 ⟨"1 + 1", true, false, true⟩],
    by decide +kernel, by decide +kernel, orderly_after initial?_beginning _ .refl⟩

end World

end ReplSend
